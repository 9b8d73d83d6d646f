import FaceAnnotator.Proofs.Json.Presentation.Record
/-!
# FaceAnnotator.Proofs.Json.Presentation.Fields

**Records that give their fields, and records that give one twice.**

A schema `Fits` the fields of a record if what has been collected depends only on which of them have
been read; then every text that gives the fields is read as the record. It is `Guarded` if a field
that has been read stays so; then no text is read that gives a field twice, or in which a field
fails for such a reason.
-/

namespace FaceAnnotator.Json

variable {α σ : Type}

/-! ### Texts that give a record are JSON -/

theorem isJson_objectText {members : List Member} {gap : List Char} (gaps : Spaces gap)
    (values : ∀ m ∈ members, IsJson m.value.text) :
    IsJson (objectText (members.map Member.toEntry) gap) := by
  refine .object gaps (fun entry mem => ?_) fun entry mem => ?_
  · obtain ⟨m, -, rfl⟩ := List.mem_map.1 mem
    exact m.spells.isLiteral
  · obtain ⟨m, known, rfl⟩ := List.mem_map.1 mem
    exact values m known

theorem GivesMembers.isJson {slots : List Slot} {members : List Member}
    (h : GivesMembers slots members)
    (values : ∀ slot ∈ slots, ∀ text, slot.tells text → IsJson text) :
    ∀ m ∈ members, IsJson m.value.text := by
  intro m mem
  by_cases known : ∃ slot ∈ slots, m.name = slot.name.toList
  · obtain ⟨slot, slot_mem, eq⟩ := known
    exact values slot slot_mem _ (h.known m mem slot slot_mem eq)
  · exact h.other m mem fun slot slot_mem eq => known ⟨slot, slot_mem, eq⟩

theorem GivesItems.isJson {slots : List Slot} {items : List Padded} (h : GivesItems slots items)
    (values : ∀ slot ∈ slots, ∀ text, slot.tells text → IsJson text) :
    ∀ i ∈ items, IsJson i.text := by
  obtain ⟨given, left, rfl, all, -⟩ := h
  intro item mem
  obtain ⟨⟨i, below⟩, rfl⟩ := List.mem_iff_get.1 mem
  have known : i < given.length := all.length_eq ▸ below
  exact values _ (List.mem_append_left left (List.getElem_mem known)) _ (all.get known below)

theorem Gives.isJson {slots : List Slot} {text : List Char} (h : Gives slots text)
    (values : ∀ slot ∈ slots, ∀ text, slot.tells text → IsJson text) : IsJson text := by
  cases h with
  | object gaps gives => exact isJson_objectText gaps (gives.isJson values)
  | list gaps gives => exact .list gaps (gives.isJson values)

namespace Schema

variable {s : Schema σ α}

/-! ### Members -/

theorem field?_some {key : List Char} {field : Field σ} (h : s.field? key = some field) :
    field ∈ s.fields ∧ field.name.toList = key :=
  ⟨List.mem_of_find?_eq_some h, by simpa using List.find?_some h⟩

theorem field?_of_mem {field : Field σ} (h : field ∈ s.fields) :
    ∃ other, s.field? field.name.toList = some other := by
  cases found : s.field? field.name.toList with
  | none => exact absurd (List.find?_eq_none.1 found field h) (by simp)
  | some other => exact ⟨other, rfl⟩

theorem member_of_isString {key : Padded} {name : List Char} (h : IsString name key.text)
    (collected : σ) (rest : List Char) :
    s.member collected (key.text.tail ++ (key.after ++ ':' :: rest)) =
      match s.field? name with
      | .none => (Skip.value rest).map fun rest => (collected, rest)
      | .some field =>
        if field.isSet collected then
          .error (.here (.duplicateField field.name) (behindObject (key.after ++ ':' :: rest)))
        else field.read collected rest := by
  obtain ⟨inside, spells, eq⟩ := h
  have reads := Literal.read_of_spells spells (key.after ++ ':' :: rest)
  have text : key.text.tail ++ (key.after ++ ':' :: rest) =
      inside ++ '"' :: (key.after ++ ':' :: rest) := by
    rw [eq]
    simp
  rw [text]
  cases named : s.field? name <;> simp only [member, reads, named, colon_key]

variable (s)

/-- What is due for a member, if this is due for the fields. -/
def MemberDue (due : Field σ → σ → List Char → Option σ → Prop) (collected : σ) (m : Member)
    (out : Option σ) : Prop :=
  match s.field? m.name with
  | .none => out = some collected
  | .some field =>
    if field.isSet collected then out = .none else due field collected m.value.text out

variable {s}

theorem memberMeets {due : Field σ → σ → List Char → Option σ → Prop} {m : Member}
    (known : ∀ field, s.field? m.name = some field → ∀ collected,
      Meets (field.read collected) m.value.text (due field collected m.value.text))
    (other : s.field? m.name = Option.none → IsJson m.value.text) (collected : σ) :
    s.MemberMeets collected m.toEntry (s.MemberDue due collected m) := by
  intro rest ends
  rw [member_of_isString m.spells]
  unfold MemberDue
  cases named : s.field? m.name with
  | none =>
      dsimp only
      rw [Skip.value_of_isJson (other named) m.value.spaces_before ends]
      exact ⟨rfl, rfl⟩
  | some field =>
      dsimp only
      cases set : field.isSet collected with
      | true => rfl
      | false => exact known field named collected _ _ m.value.spaces_before ends

/-! ### Every reader of a record -/

/-- A field may be read from any JSON, and leaves what is behind it. -/
def Takes (s : Schema σ α) : Prop :=
  ∀ field ∈ s.fields, ∀ collected text,
    IsJson text → Meets (field.read collected) text fun _ => True

theorem Takes.member (h : s.Takes) {entry : Entry} (literal : IsLiteral entry.key.text)
    (value : IsJson entry.value.text) (collected : σ) :
    s.MemberMeets collected entry fun _ => True := by
  intro rest ends
  refine allowed_of_rest fun next left reads => ?_
  obtain ⟨inside, is, eq⟩ := literal
  let behind := entry.key.after ++ ':' :: (entry.value.before ++ (entry.value.text ++ rest))
  have text : entry.key.text.tail ++ behind = inside ++ '"' :: behind := by
    rw [eq]
    simp
  rw [text, Schema.member] at reads
  split at reads
  · cases reads
  rename_i key after read
  obtain rfl := Literal.read_inside is read
  rw [colon_key] at reads
  split at reads
  · dsimp only at reads
    rw [Skip.value_of_isJson value entry.value.spaces_before ends] at reads
    exact (Prod.mk.inj (Except.ok.inj reads)).2.symm
  · rename_i field named
    split at reads
    · cases reads
    · have met := h field (field?_some named).1 collected _ value _ _ entry.value.spaces_before ends
      dsimp only at reads
      rw [reads] at met
      exact met.1

/-- A record is read from any JSON or not, but leaves what is behind it. -/
theorem Takes.read (h : s.Takes) {text : List Char} (is : IsJson text) :
    Meets s.read text fun _ => True := by
  intro before rest spaces ends
  have begins := is.begins
  obtain ⟨c, more, rfl, -, -, -, is_list, is_object⟩ := is.view
  by_cases object : c = '\x7b'
  · obtain ⟨entries, gap, gaps, literals, values, eq⟩ := is_object object
    have met := @meets_object α σ Entry s id (fun _ _ _ => True) entries literals
      (fun entry mem collected => h.member (literals entry mem) (values entry mem) collected)
      gap gaps
    rw [List.map_id, ← eq] at met
    exact (met before rest spaces ends).mono fun _ _ => trivial
  by_cases list : c = '['
  · obtain ⟨items, gap, gaps, values, eq⟩ := is_list list
    have met := @meets_sequence α σ s (fun _ _ _ => True) items (fun i mem => (values i mem).begins)
      (fun p mem collected =>
        h p.1 (List.of_mem_zip mem).1 collected _ (values p.2 (List.of_mem_zip mem).2)) gap gaps
    rw [← eq] at met
    exact (met before rest spaces ends).mono fun _ _ => trivial
  · rw [read_cons (skipSpace_value spaces begins rest), if_neg object, if_neg list]
    trivial

end Schema

/-! ### Records that give their fields -/

/-- A value that is known once its name has been read. -/
def told {β : Type} (given : List String) (name : String) (x : β) : Option β :=
  if name ∈ given then some x else none

@[simp] theorem isSome_told {β : Type} (given : List String) (name : String) (x : β) :
    (told given name x).isSome = decide (name ∈ given) := by
  by_cases mem : name ∈ given <;> simp [told, mem]

theorem told_of_mem {β : Type} {given : List String} {name : String} (h : name ∈ given) (x : β) :
    told given name x = some x := if_pos h

theorem getD_told {β : Type} {given : List String} {name : String} {xs : List β}
    (h : xs = [] ∨ name ∈ given) :
    (told given name xs).getD [] = xs := by
  by_cases mem : name ∈ given
  · rw [told_of_mem mem, Option.getD_some]
  · rw [h.resolve_right mem, told, if_neg mem, Option.getD_none]

@[simp] theorem told_cons {β : Type} (other : String) (given : List String) (name : String)
    (x : β) :
    told (other :: given) name x = if name = other then some x else told given name x := by
  by_cases same : name = other <;> simp [told, same]

/-- A field finds what a slot tells. What has been collected is told by the names that have been
read. -/
structure Field.Fits (field : Field σ) (slot : Slot) (draft : List String → σ) : Prop where
  name : field.name = slot.name
  required : slot.optional → field.required = false
  isJson : ∀ text, slot.tells text → IsJson text
  isSet : ∀ given, field.isSet (draft given) = decide (slot.name ∈ given)
  reads : ∀ given text, slot.tells text →
    Meets (field.read (draft given)) text fun out => out = some (draft (slot.name :: given))

/-- A field that keeps what a reader makes of a text fits if the reader reads the right thing and it
is kept in the right place. -/
theorem Field.fits_of_reader {β : Type} {r : Reader β} (set : σ → β → σ) {name : String}
    {required : Bool} {isSet : σ → Bool} {slot : Slot} {draft : List String → σ} {x : β}
    (named : name = slot.name) (optional : slot.optional → required = false)
    (isJson : ∀ text, slot.tells text → IsJson text)
    (kept : ∀ given, isSet (draft given) = decide (slot.name ∈ given))
    (sets : ∀ given, set (draft given) x = draft (slot.name :: given))
    (reads : ∀ text, slot.tells text → Meets r text fun out => out = some x) :
    Field.Fits ⟨name, required, isSet, fun d rest => (r rest).map fun (y, rest) => (set d y, rest)⟩
      slot draft where
  name := named
  required := optional
  isJson := isJson
  isSet := kept
  reads := by
    intro given text tells
    refine (reads text tells).map (set (draft given)) ?_
    rintro out rfl
    rw [Option.map_some, sets]

namespace Schema

/-- A record is what is built when enough of its slots have been told. -/
structure Fits (s : Schema σ α) (slots : List Slot) (draft : List String → σ) (x : α) : Prop where
  takes : s.Takes
  none : s.none = draft []
  fields : List.Forall₂ (fun field slot => field.Fits slot draft) s.fields slots
  build :
    ∀ given, (∀ slot ∈ slots, slot.optional ∨ slot.name ∈ given) → s.build (draft given) = .ok x

/-- What is due for a field, if the text is what a slot tells. -/
def FitsDue (draft : List String → σ) (field : Field σ) (collected : σ) (text : List Char)
    (out : Option σ) : Prop :=
  ∀ slot given, field.Fits slot draft → slot.tells text → collected = draft given →
    out = some (draft (slot.name :: given))

theorem Takes.fitsDue {s : Schema σ α} (h : s.Takes) (draft : List String → σ) {field : Field σ}
    (mem : field ∈ s.fields) {text : List Char} (is : IsJson text) (collected : σ) :
    Meets (field.read collected) text (FitsDue draft field collected text) := by
  intro before rest spaces ends
  have met := h field mem collected text is before rest spaces ends
  cases outcome : field.read collected (before ++ (text ++ rest)) with
  | error fault =>
      rintro slot given fits tells rfl
      have read := fits.reads given text tells before rest spaces ends
      rw [outcome] at read
      exact read
  | ok found =>
      rw [outcome] at met
      refine ⟨met.1, ?_⟩
      rintro slot given fits tells rfl
      have read := fits.reads given text tells before rest spaces ends
      rw [outcome] at read
      exact read.2

namespace Fits

variable {s : Schema σ α} {slots : List Slot} {draft : List String → σ} {x : α}
  (h : s.Fits slots draft x)
include h

theorem isJson : ∀ slot ∈ slots, ∀ text, slot.tells text → IsJson text := by
  intro slot mem text tells
  obtain ⟨⟨i, below⟩, rfl⟩ := List.mem_iff_get.1 mem
  exact (h.fields.get (h.fields.length_eq ▸ below) below).isJson text tells

theorem slot_of_field {name : List Char} {field : Field σ} (named : s.field? name = some field) :
    ∃ slot ∈ slots, field.Fits slot draft ∧ name = slot.name.toList := by
  obtain ⟨mem, eq⟩ := field?_some named
  obtain ⟨⟨i, below⟩, rfl⟩ := List.mem_iff_get.1 mem
  have fits := h.fields.get below (h.fields.length_eq ▸ below)
  refine ⟨_, List.get_mem slots _, fits, ?_⟩
  rw [← eq, fits.name]

theorem field_of_slot {slot : Slot} (mem : slot ∈ slots) :
    ∃ field, s.field? slot.name.toList = some field := by
  obtain ⟨⟨i, below⟩, rfl⟩ := List.mem_iff_get.1 mem
  have known : i < s.fields.length := h.fields.length_eq ▸ below
  have fits := h.fields.get known below
  rw [← fits.name]
  exact field?_of_mem (List.getElem_mem known)

/-- Members are read one after the other, each that is known into its own field. -/
theorem runs_members {members : List Member} {out : Option σ} {given : List String}
    (run : Runs (s.MemberDue (FitsDue draft)) (draft given) members out)
    (unrepeated : Unrepeated (slots.map Slot.name) members)
    (known : ∀ m ∈ members, ∀ slot ∈ slots, m.name = slot.name.toList → slot.tells m.value.text)
    (fresh : ∀ m ∈ members, ∀ slot ∈ slots, m.name = slot.name.toList → slot.name ∉ given) :
    ∃ all, out = some (draft all) ∧ (∀ name ∈ given, name ∈ all) ∧
      ∀ m ∈ members, ∀ slot ∈ slots, m.name = slot.name.toList → slot.name ∈ all := by
  induction members generalizing given with
  | nil =>
      cases run
      exact ⟨given, rfl, fun _ mem => mem, fun _ mem => absurd mem List.not_mem_nil⟩
  | cons m members ih =>
      obtain ⟨single, unrepeated⟩ := List.pairwise_cons.1 unrepeated
      have step_due {next : Option σ} (step : s.MemberDue (FitsDue draft) (draft given) m next) :
          (next = some (draft given) ∧ ∀ slot ∈ slots, m.name ≠ slot.name.toList) ∨
            ∃ slot ∈ slots, m.name = slot.name.toList ∧
              next = some (draft (slot.name :: given)) := by
        unfold MemberDue at step
        cases named : s.field? m.name with
        | none =>
            rw [named] at step
            refine .inl ⟨step, fun slot mem eq => ?_⟩
            obtain ⟨field, found⟩ := h.field_of_slot mem
            rw [← eq, named] at found
            cases found
        | some field =>
            rw [named] at step
            obtain ⟨slot, mem, fits, eq⟩ := h.slot_of_field named
            have unset : field.isSet (draft given) = false := by
              rw [fits.isSet, decide_eq_false_iff_not]
              exact fresh m List.mem_cons_self slot mem eq
            simp only [unset, Bool.false_eq_true, if_false] at step
            exact .inr ⟨slot, mem, eq,
              step slot given fits (known m List.mem_cons_self slot mem eq) rfl⟩
      cases run with
      | stop step =>
          rcases step_due step with ⟨eq, -⟩ | ⟨slot, -, -, eq⟩ <;> cases eq
      | next step later =>
          have known_later := fun n mem => known n (List.mem_cons_of_mem m mem)
          have fresh_later := fun n mem => fresh n (List.mem_cons_of_mem m mem)
          rcases step_due step with ⟨eq, other⟩ | ⟨slot, mem, named, eq⟩
          · cases eq
            obtain ⟨all, read, old, new⟩ := ih later unrepeated known_later fresh_later
            refine ⟨all, read, old, fun n n_mem slot mem eq => ?_⟩
            rcases List.mem_cons.1 n_mem with rfl | n_mem
            · exact absurd eq (other slot mem)
            · exact new n n_mem slot mem eq
          · cases eq
            obtain ⟨all, read, old, new⟩ := ih later unrepeated known_later (by
              intro n n_mem other other_mem eq
              rw [List.mem_cons, not_or]
              refine ⟨fun same => ?_, fresh_later n n_mem other other_mem eq⟩
              rw [same] at eq
              exact single n n_mem slot.name (List.mem_map_of_mem mem) named eq)
            refine ⟨all, read, fun name mem => old name (List.mem_cons_of_mem _ mem), ?_⟩
            intro n n_mem other other_mem eq
            rcases List.mem_cons.1 n_mem with rfl | n_mem
            · rw [named] at eq
              rw [← String.toList_injective eq]
              exact old _ List.mem_cons_self
            · exact new n n_mem other other_mem eq

omit h in
/-- Elements are read one after the other, each into the field of its place. -/
theorem runs_items {fields : List (Field σ)} {given left : List Slot} {items : List Padded}
    {out : Option σ}
    {names : List String}
    (fits : List.Forall₂ (fun field slot => field.Fits slot draft) fields (given ++ left))
    (all : List.Forall₂ (fun slot item => slot.tells item.text) given items)
    (run : Runs (fun collected (p : Field σ × Padded) => FitsDue draft p.1 collected p.2.text)
      (draft names) (fields.zip items) out) :
    ∃ found, out = some (draft found) ∧ (∀ name ∈ names, name ∈ found) ∧
      ∀ slot ∈ given, slot.name ∈ found := by
  induction all generalizing fields names with
  | nil =>
      rw [List.zip_nil_right] at run
      cases run
      exact ⟨names, rfl, fun _ mem => mem, fun _ mem => absurd mem List.not_mem_nil⟩
  | @cons slot item given items one others ih =>
      cases fits with
      | @cons field _ fields _ fit fits =>
          cases run with
          | stop step => cases step slot names fit one rfl
          | next step later =>
              cases step slot names fit one rfl
              obtain ⟨found, read, old, new⟩ := ih fits later
              refine ⟨found, read, fun name mem => old name (List.mem_cons_of_mem _ mem),
                fun other mem => ?_⟩
              rcases List.mem_cons.1 mem with rfl | mem
              · exact old _ List.mem_cons_self
              · exact new other mem

/-- A text that gives the fields of a record is read as the record. -/
theorem reads {text : List Char} (gives : Gives slots text) :
    Meets s.read text fun out => out = some x := by
  have built {all : List String} (enough : ∀ slot ∈ slots, slot.optional ∨ slot.name ∈ all) :
      s.built (some (draft all)) = some x := by
    rw [Schema.built, Option.bind_some, h.build all enough]
    rfl
  cases gives with
  | @object members gap gaps gives =>
      have values := gives.isJson h.isJson
      have met := @meets_object α σ Member s Member.toEntry (s.MemberDue (FitsDue draft)) members
        (fun m _ => m.spells.isLiteral)
        (fun m mem collected => memberMeets
          (fun field named collected =>
            h.takes.fitsDue draft (field?_some named).1 (values m mem) collected)
          (fun _ => values m mem) collected) gap gaps
      refine met.mono ?_
      rintro out ⟨found, run, rfl⟩
      rw [h.none] at run
      obtain ⟨all, rfl, -, new⟩ := h.runs_members run gives.unrepeated gives.known
        fun _ _ _ _ _ mem => absurd mem List.not_mem_nil
      refine built fun slot mem => (gives.complete slot mem).imp id ?_
      rintro ⟨m, m_mem, eq⟩
      exact new m m_mem slot mem eq
  | @list items gap gaps gives =>
      have values := gives.isJson h.isJson
      obtain ⟨given, left, rfl, all, optional⟩ := gives
      have met := @meets_sequence α σ s
        (fun collected p => FitsDue draft p.1 collected p.2.text) items
        (fun i mem => (values i mem).begins)
        (fun p mem collected => h.takes.fitsDue draft (List.of_mem_zip mem).1
          (values p.2 (List.of_mem_zip mem).2) collected) gap gaps
      refine met.mono ?_
      rintro out (⟨found, run, rfl⟩ | ⟨rfl, missing | many⟩)
      · rw [h.none] at run
        obtain ⟨found, rfl, -, new⟩ := runs_items h.fields all run
        refine built fun slot mem => ?_
        rcases List.mem_append.1 mem with mem | mem
        · exact .inr (new slot mem)
        · exact .inl (optional slot mem)
      · obtain ⟨field, mem, required⟩ := missing
        have rest := List.forall₂_drop_append s.fields given left h.fields
        rw [all.length_eq] at rest
        obtain ⟨⟨i, below⟩, rfl⟩ := List.mem_iff_get.1 mem
        have fits := rest.get below (rest.length_eq ▸ below)
        rw [fits.required (optional _ (List.get_mem left _))] at required
        cases required
      · have length := h.fields.length_eq
        have same := all.length_eq
        rw [List.length_append] at length
        omega

end Fits

/-! ### Records that give a field twice -/

/-- A field that is read stays so, no other one changes, and a field fails on the texts of
the given kind. -/
structure Guarded (s : Schema σ α) (within : String → List Char → Prop) : Prop where
  keeps : ∀ field ∈ s.fields, ∀ collected text, IsJson text →
    Meets (field.read collected) text fun out =>
      ∀ next, out = some next → ∀ other ∈ s.fields,
        other.isSet next = (other.isSet collected || other.name == field.name)
  fails : ∀ field ∈ s.fields, ∀ collected text, within field.name text →
    Meets (field.read collected) text fun out => out = Option.none

variable {s : Schema σ α} {within : String → List Char → Prop}

theorem Guarded.takes (h : s.Guarded within) : s.Takes := fun field mem collected text is =>
  (h.keeps field mem collected text is).mono fun _ _ => trivial

variable (s) (within)

/-- What is due for a field, as far as it matters whether it is given twice. -/
def GuardDue (field : Field σ) (collected : σ) (text : List Char) (out : Option σ) : Prop :=
  ∀ next, out = some next → ¬within field.name text ∧
    ∀ other ∈ s.fields, other.isSet next = (other.isSet collected || other.name == field.name)

variable {s} {within}

namespace Guarded

variable (h : s.Guarded within)
include h

theorem guardDue {field : Field σ} (mem : field ∈ s.fields) {text : List Char} (is : IsJson text)
    (collected : σ) :
    Meets (field.read collected) text (GuardDue s within field collected text) := by
  by_cases inside : within field.name text
  · refine (h.fails field mem collected text inside).mono ?_
    rintro out rfl next eq
    cases eq
  · exact (h.keeps field mem collected text is).mono fun out sets next eq => ⟨inside, sets next eq⟩

omit h in
/-- Where all members are read, none of the known ones is given twice. -/
theorem runs_members {members : List Member} {collected all : σ}
    (run : Runs (s.MemberDue (GuardDue s within)) collected members (some all)) :
    Unrepeated (s.fields.map Field.name) members ∧
      ∀ m ∈ members, ∀ field, s.field? m.name = some field →
      field.isSet collected = false ∧ ¬within field.name m.value.text := by
  induction members generalizing collected with
  | nil => exact ⟨.nil, fun _ mem => absurd mem List.not_mem_nil⟩
  | cons m members ih =>
      cases run with
      | @next _ next _ _ _ step later =>
          obtain ⟨unrepeated, others⟩ := ih later
          unfold MemberDue at step
          cases named : s.field? m.name with
          | none =>
              rw [named] at step
              cases step
              refine ⟨List.pairwise_cons.2 ⟨fun n mem name known eq => ?_, unrepeated⟩,
                fun n mem field found => ?_⟩
              · obtain ⟨field, field_mem, rfl⟩ := List.mem_map.1 known
                obtain ⟨found, is⟩ := field?_of_mem field_mem
                rw [← eq, named] at is
                cases is
              · rcases List.mem_cons.1 mem with rfl | mem
                · rw [named] at found
                  cases found
                · exact others n mem field found
          | some field =>
              rw [named] at step
              dsimp only at step
              split at step
              · cases step
              rename_i unset
              obtain ⟨outside, sets⟩ := step next rfl
              obtain ⟨field_mem, name_eq⟩ := field?_some named
              have field_set : field.isSet next = true := by
                rw [sets field field_mem, beq_self_eq_true, Bool.or_true]
              refine ⟨List.pairwise_cons.2 ⟨fun n mem name known eq again => ?_, unrepeated⟩,
                fun n mem other found => ?_⟩
              · have same : s.field? n.name = some field := by rw [again, ← eq, named]
                rw [(others n mem field same).1] at field_set
                cases field_set
              · rcases List.mem_cons.1 mem with rfl | mem
                · rw [named] at found
                  cases found
                  exact ⟨by simpa using unset, outside⟩
                · obtain ⟨unset, outside⟩ := others n mem other found
                  rw [sets other (field?_some found).1, Bool.or_eq_false_iff] at unset
                  exact ⟨unset.1, outside⟩

omit h in
theorem runs_items {pairs : List (Field σ × Padded)} {collected all : σ}
    (run : Runs (fun collected (p : Field σ × Padded) => GuardDue s within p.1 collected p.2.text)
      collected pairs (some all)) : ∀ p ∈ pairs, ¬within p.1.name p.2.text := by
  induction pairs generalizing collected with
  | nil => exact fun _ mem => absurd mem List.not_mem_nil
  | cons p pairs ih =>
      cases run with
      | @next _ next _ _ _ step later =>
          intro q mem
          rcases List.mem_cons.1 mem with rfl | mem
          · exact (step next rfl).1
          · exact ih later q mem

theorem refuses_object {members : List Member} {gap : List Char} (gaps : Spaces gap)
    (values : ∀ m ∈ members, IsJson m.value.text)
    (bad : ¬Unrepeated (s.fields.map Field.name) members ∨
      ∃ m ∈ members, ∃ field, s.field? m.name = some field ∧ within field.name m.value.text) :
    Meets s.read (objectText (members.map Member.toEntry) gap) fun out => out = Option.none := by
  have met := @meets_object α σ Member s Member.toEntry (s.MemberDue (GuardDue s within)) members
    (fun m _ => m.spells.isLiteral)
    (fun m mem collected => memberMeets
      (fun field named collected => h.guardDue (field?_some named).1 (values m mem) collected)
      (fun _ => values m mem) collected) gap gaps
  refine met.mono ?_
  rintro out ⟨found, run, rfl⟩
  cases found with
  | none => rfl
  | some all =>
      obtain ⟨unrepeated, others⟩ := runs_members run
      rcases bad with twice | ⟨m, mem, field, named, inside⟩
      · exact absurd unrepeated twice
      · exact absurd inside (others m mem field named).2

/-- A text that gives a field twice is not read. -/
theorem refuses {text : List Char} (repeats : Repeats (s.fields.map Field.name) within text) :
    Meets s.read text fun out => out = Option.none := by
  cases repeats with
  | here gaps values twice => exact h.refuses_object gaps values (.inl twice)
  | @member members gap m name gaps values mem known eq inside =>
      obtain ⟨field, field_mem, rfl⟩ := List.mem_map.1 known
      obtain ⟨found, named⟩ := field?_of_mem field_mem
      have same : found.name = field.name := String.toList_injective (field?_some named).2
      refine h.refuses_object gaps values (.inr ⟨m, mem, found, by rw [eq, named], ?_⟩)
      rw [same]
      exact inside
  | @element items gap name item gaps values mem inside =>
      have met := @meets_sequence α σ s
        (fun collected p => GuardDue s within p.1 collected p.2.text) items
        (fun i mem => (values i mem).begins)
        (fun p mem collected =>
          h.guardDue (List.of_mem_zip mem).1 (values p.2 (List.of_mem_zip mem).2) collected)
        gap gaps
      refine met.mono ?_
      rintro out (⟨found, run, rfl⟩ | ⟨rfl, -⟩)
      · cases found with
        | none => rfl
        | some all =>
            rw [List.zip_map_left] at mem
            obtain ⟨⟨field, element⟩, pair_mem, eq⟩ := List.mem_map.1 mem
            cases eq
            exact absurd inside (runs_items run _ pair_mem)
      · rfl

end Guarded

end Schema

end FaceAnnotator.Json
