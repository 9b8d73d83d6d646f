import FaceAnnotator.Proofs.Frame.RoundTrip
import FaceAnnotator.Proofs.Json.Presentation.Fields
/-!
# FaceAnnotator.Proofs.Frame.Presentation

**A frame may be written in many ways, and reads the same.**

What a text has to tell for each field of a tensor, a region and a frame is said here; which texts
tell it, in which order and with what else around it, is said of all records at once. The three
schemas fit, one in the other.
-/

namespace FaceAnnotator

open Numeric Json

/-! ### What a text tells -/

namespace Tensor

/-- A number that is read as a word of data. -/
def TellsData (x : Single) (text : List Char) : Prop := IsNumber text ∧ document single text = .ok x

/-- A string for a label that is set, and `null` for one that is not. -/
def TellsLabel : Option String → List Char → Prop
  | none, text => text = ['n', 'u', 'l', 'l']
  | some label, text => IsString label.toList text

def slots (t : Tensor) : List Slot :=
  [⟨"name", False, IsString t.name.toList⟩, ⟨"layer_name", False, IsString t.layer.toList⟩,
    ⟨"data", False, IsListOf TellsData t.data⟩, ⟨"label", t.label = none, TellsLabel t.label⟩]

/-- A text presents a tensor. -/
def Presents (t : Tensor) (text : List Char) : Prop := Gives t.slots text

/-- A text in the form of a tensor gives a field twice. -/
def Repeats (text : List Char) : Prop :=
  Json.Repeats ["name", "layer_name", "data", "label"] (fun _ _ => False) text

end Tensor

namespace Region

-- An integer is written in one way only. A zero with a sign would be a real number.
def slots (r : Region) : List Slot :=
  [⟨"x", False, (· = integerText r.x.toInt)⟩, ⟨"y", False, (· = integerText r.y.toInt)⟩,
    ⟨"width", False, (· = integerText r.width.toInt)⟩,
    ⟨"height", False, (· = integerText r.height.toInt)⟩,
    ⟨"tensors", r.tensors = [], IsListOf Tensor.Presents r.tensors⟩]

/-- A text presents a region. -/
def Presents (r : Region) (text : List Char) : Prop := Gives r.slots text

/-- A text in the form of a region gives a field twice, or has a tensor in it that does. -/
def Repeats (text : List Char) : Prop :=
  Json.Repeats ["x", "y", "width", "height", "tensors"]
    (fun name text => name = "tensors" ∧ HasElement Tensor.Repeats text) text

end Region

namespace Frame

def slots (f : Frame) : List Slot :=
  [⟨"index", False, (· = integerText f.index.toNat)⟩,
    ⟨"regions", f.regions = [], IsListOf Region.Presents f.regions⟩]

/-- A text presents a frame. -/
def Presents (f : Frame) (text : List Char) : Prop := Gives f.slots text

/-- A text in the form of a frame gives a field twice, or has a region in it that does. -/
def Repeats (text : List Char) : Prop :=
  Json.Repeats ["index", "regions"]
    (fun name text => name = "regions" ∧ HasElement Region.Repeats text) text

end Frame

/-! ### Two texts -/

theorem Json.isJson_of_eq {n : Int} {text : List Char} (h : text = integerText n) :
    IsJson text := by
  subst h
  refine .number ⟨decide (n < 0), digitsOf n.natAbs, [], [], ?_,
    canonical_digitsOf _, .inl rfl, .inl rfl⟩
  by_cases negative : n < 0
  · simp [integerText, signText, negative]
  · simp [integerText, signText, negative]

namespace Frame

/-- A member that means nothing, though it has the name of a field in it, and half a character. -/
def note : Member where
  key := ⟨[], "\"note\"".toList, [' '], spaces_nil, by decide⟩
  value :=
    ⟨[' '],
      listText [.bare (objectText [⟨.bare "\"index\"".toList, .bare "\"\\ud800\"".toList⟩] [])] [],
      [' '], by decide, by decide⟩
  name := "note".toList
  spells := ⟨"note".toList, spells_of_isPlainText (by decide), rfl⟩

/-- A region in the form of a list, without tensors. -/
def corner : List Char := listText (["1", "-2", "3", "4"].map fun n => .bare n.toList) []

/-- The members of a frame, out of order, with an escape in a key. -/
def shuffled : List Member :=
  [note,
    { key := .bare "\"r\\u0065gions\"".toList
      value := .bare (listText [.bare corner] [])
      name := "regions".toList
      spells := ⟨"r\\u0065gions".toList, .plain (by decide) (.unicode
        ⟨'0', '0', '6', '5', 0, 0, 6, 5, rfl, by decide, by decide, by decide, by decide, rfl⟩
        (spells_of_isPlainText (by decide))), rfl⟩ },
    .bare "index" (by decide) ['7']]

theorem isJson_note : IsJson note.value.text := by
  refine .list (by decide) fun i mem => ?_
  rw [List.mem_singleton.1 mem]
  refine .object (by decide) (fun e mem => ?_) fun e mem => ?_
  · rw [List.mem_singleton.1 mem]
    exact ⟨"index".toList, (spells_of_isPlainText (by decide)).isInside, rfl⟩
  · rw [List.mem_singleton.1 mem]
    exact .literal ⟨"\\ud800".toList,
      .unicode ⟨'d', '8', '0', '0', 13, 8, 0, 0, rfl, by decide, by decide, by decide, by decide,
        rfl⟩ .nil, rfl⟩

theorem presents_corner : Region.Presents ⟨1, -2, 3, 4, []⟩ corner := by
  refine .list (by decide) ⟨_, _, (List.take_append_drop 4 _).symm, ?_, ?_⟩
  · exact .cons (by decide) (.cons (by decide) (.cons (by decide) (.cons (by decide) .nil)))
  · simp [Region.slots]

theorem presents_shuffled :
    Presents ⟨7, [⟨1, -2, 3, 4, []⟩]⟩ (objectText (shuffled.map Member.toEntry) []) := by
  refine .object (by decide)
    ⟨?_, fun slot mem => ?_, fun m mem slot slot_mem eq => ?_, fun m mem other => ?_⟩
  · simp [Unrepeated, shuffled, note, slots, Member.bare]
  · simp only [slots, List.mem_cons, List.not_mem_nil, or_false] at mem
    rcases mem with rfl | rfl
    · exact .inr ⟨_, List.mem_cons_of_mem _ (List.mem_cons_of_mem _ List.mem_cons_self), rfl⟩
    · exact .inr ⟨_, List.mem_cons_of_mem _ List.mem_cons_self, rfl⟩
  · simp only [shuffled, slots, List.mem_cons, List.not_mem_nil, or_false] at mem slot_mem
    rcases mem with rfl | rfl | rfl <;> rcases slot_mem with rfl | rfl
    iterate 3 exact absurd eq (by decide)
    · exact ⟨_, [], by decide, .cons presents_corner .nil, rfl⟩
    · exact (by decide : ['7'] = integerText 7)
    · exact absurd eq (by decide)
  · simp only [shuffled, List.mem_cons, List.not_mem_nil, or_false] at mem
    rcases mem with rfl | rfl | rfl
    · exact isJson_note
    · exact absurd rfl (other _ (List.mem_cons_of_mem _ List.mem_cons_self))
    · exact absurd rfl (other _ List.mem_cons_self)

/-- The members of a region that give its left edge twice. -/
def edges : List Member := List.replicate 2 (.bare "x" (by decide) ['1'])

/-- The members of a frame with that region. -/
def twice : List Member :=
  [.bare "index" (by decide) ['7'],
    .bare "regions" (by decide) (listText [.bare (objectText (edges.map Member.toEntry) [])] [])]

theorem repeats_twice : Repeats (objectText (twice.map Member.toEntry) []) := by
  have values : ∀ m ∈ edges, IsJson m.value.text := by
    intro m mem
    rw [List.eq_of_mem_replicate mem]
    exact isJson_of_eq (show ['1'] = integerText 1 by decide)
  have repeats : Region.Repeats (objectText (edges.map Member.toEntry) []) := by
    refine .here (by decide) values fun unrepeated => ?_
    exact (List.pairwise_cons.1 unrepeated).1 _ List.mem_cons_self "x" List.mem_cons_self rfl rfl
  have regions : ∀ i ∈ [Padded.bare (objectText (edges.map Member.toEntry) [])], IsJson i.text := by
    intro i mem
    rw [List.mem_singleton.1 mem]
    exact isJson_objectText (by decide) values
  refine .member (by decide) (fun m mem => ?_) (List.mem_cons_of_mem _ List.mem_cons_self)
    (List.mem_cons_of_mem _ List.mem_cons_self) rfl
    ⟨rfl, _, [], by decide, regions, ⟨_, List.mem_cons_self, repeats⟩, rfl⟩
  rcases List.mem_pair.1 mem with rfl | rfl
  · exact isJson_of_eq (show ['7'] = integerText 7 by decide)
  · exact .list (by decide) regions

end Frame

/-! ### Fields that have been read stay so -/

theorem Json.Meets.map_all {α β : Type} {r : Reader α} {text : List Char}
    (h : Meets r text fun _ => True) (f : α → β) {P : β → Prop} (all : ∀ x, P (f x)) :
    Meets (fun rest => (r rest).map fun (x, rest) => (f x, rest)) text fun out =>
      ∀ y, out = some y → P y := by
  refine h.map f fun out _ y eq => ?_
  cases out with
  | none => cases eq
  | some x =>
      cases eq
      exact all x

theorem Tensor.guarded : schema.Guarded fun _ _ => False where
  keeps := by
    intro field mem d text is
    simp only [schema, List.mem_cons, List.not_mem_nil, or_false] at mem
    rcases mem with rfl | rfl | rfl | rfl
    · refine (takes_text is).map_all (fun s => { d with name := some s }) fun _ => ?_
      simp [schema]
    · refine (takes_text is).map_all (fun s => { d with layer := some s }) fun _ => ?_
      simp [schema]
    · refine (takes_list (fun _ => takes_single) is).map_all (fun xs => { d with data := some xs })
        fun _ => ?_
      simp [schema]
    · refine (takes_optionalText is).map_all (fun l => { d with label := some l }) fun _ => ?_
      simp [schema]
  fails := fun _ _ _ _ inside => inside.elim

theorem Region.takes_readExtent {text : List Char} (is : IsJson text) :
    Meets readExtent text fun _ => True :=
  (takes_integer "i32" _ _ is).map Int32.ofInt fun _ _ => trivial

theorem Region.guarded :
    schema.Guarded fun name text => name = "tensors" ∧ HasElement Tensor.Repeats text where
  keeps := by
    intro field mem d text is
    simp only [schema, List.mem_cons, List.not_mem_nil, or_false] at mem
    rcases mem with rfl | rfl | rfl | rfl | rfl
    · refine (takes_readExtent is).map_all (fun n => { d with x := some n }) fun _ => ?_
      simp [schema]
    · refine (takes_readExtent is).map_all (fun n => { d with y := some n }) fun _ => ?_
      simp [schema]
    · refine (takes_readExtent is).map_all (fun n => { d with width := some n }) fun _ => ?_
      simp [schema]
    · refine (takes_readExtent is).map_all (fun n => { d with height := some n }) fun _ => ?_
      simp [schema]
    · refine (takes_list (fun _ => Tensor.guarded.takes.read) is).map_all
        (fun ts => { d with tensors := some ts }) fun _ => ?_
      simp [schema]
  fails := by
    rintro field mem d text ⟨name, inside⟩
    simp only [schema, List.mem_cons, List.not_mem_nil, or_false] at mem
    rcases mem with rfl | rfl | rfl | rfl | rfl
    iterate 4 exact absurd name (by decide)
    have fails := refuses_list (fun _ => Tensor.guarded.takes.read)
      (fun _ => Tensor.guarded.refuses) inside
    refine fails.map (fun ts => { d with tensors := some ts }) ?_
    rintro out rfl
    rfl

theorem Frame.guarded :
    schema.Guarded fun name text => name = "regions" ∧ HasElement Region.Repeats text where
  keeps := by
    intro field mem d text is
    simp only [schema, List.mem_cons, List.not_mem_nil, or_false] at mem
    rcases mem with rfl | rfl
    · have takes : Meets readIndex text fun _ => True :=
        (takes_integer "usize" _ _ is).map (fun n => UInt64.ofNat n.toNat) fun _ _ => trivial
      refine takes.map_all (fun n => { d with index := some n }) fun _ => ?_
      simp [schema]
    · refine (takes_list (fun _ => Region.guarded.takes.read) is).map_all
        (fun rs => { d with regions := some rs }) fun _ => ?_
      simp [schema]
  fails := by
    rintro field mem d text ⟨name, inside⟩
    simp only [schema, List.mem_cons, List.not_mem_nil, or_false] at mem
    rcases mem with rfl | rfl
    · exact absurd name (by decide)
    have fails := refuses_list (fun _ => Region.guarded.takes.read)
      (fun _ => Region.guarded.refuses) inside
    refine fails.map (fun rs => { d with regions := some rs }) ?_
    rintro out rfl
    rfl

/-! ### Texts that present are read -/

theorem Json.isJson_of_isString {s text : List Char} (h : IsString s text) :
    IsJson text := .literal h.isLiteral

theorem Json.reads_string {s : String} {text : List Char} (h : IsString s.toList text) :
    Meets Json.text text fun out => out = some s := by
  have read := reads_text h
  rwa [String.ofList_toList] at read

namespace Tensor

theorem TellsData.isJson {x : Single} {text : List Char} (h : TellsData x text) :
    IsJson text := .number h.1

theorem TellsData.reads {x : Single} {text : List Char} (h : TellsData x text) :
    Begins text ∧ Meets single text fun out => out = some x :=
  ⟨begins_of_isNumber h.1, reads_single h.1 h.2⟩

theorem TellsLabel.isJson {label : Option String} {text : List Char} (h : TellsLabel label text) :
    IsJson text := by
  cases label with
  | none =>
      obtain rfl : text = ['n', 'u', 'l', 'l'] := h
      exact .word List.mem_cons_self
  | some label => exact isJson_of_isString h

theorem TellsLabel.reads {label : Option String} {text : List Char} (h : TellsLabel label text) :
    Meets optionalText text fun out => out = some label := by
  cases label with
  | none =>
      obtain rfl : text = ['n', 'u', 'l', 'l'] := h
      exact reads_null
  | some label =>
      have read := reads_optionalText h
      rwa [String.ofList_toList] at read

/-- What has been collected of a tensor. -/
def told (t : Tensor) (given : List String) : Draft where
  name := Json.told given "name" t.name
  layer := Json.told given "layer_name" t.layer
  data := Json.told given "data" t.data
  label := Json.told given "label" t.label

theorem fits (t : Tensor) : schema.Fits t.slots t.told t where
  takes := guarded.takes
  none := rfl
  fields := by
    refine .cons ?name <| .cons ?layer <| .cons ?data <| .cons ?label .nil
    case name =>
      refine Field.fits_of_reader (fun (d : Draft) s => { d with name := some s }) rfl False.elim
        (fun _ => isJson_of_isString) (fun given => ?_) (fun given => ?_) fun _ => reads_string
      all_goals simp [told]
    case layer =>
      refine Field.fits_of_reader (fun (d : Draft) s => { d with layer := some s }) rfl False.elim
        (fun _ => isJson_of_isString) (fun given => ?_) (fun given => ?_) fun _ => reads_string
      all_goals simp [told]
    case data =>
      refine Field.fits_of_reader (fun (d : Draft) xs => { d with data := some xs }) rfl False.elim
        (fun _ tells => IsListOf.isJson tells fun _ _ => TellsData.isJson) (fun given => ?_)
        (fun given => ?_) fun _ => reads_list fun _ _ => TellsData.reads
      all_goals simp [told]
    case label =>
      refine Field.fits_of_reader (fun (d : Draft) l => { d with label := some l }) rfl
        (fun _ => rfl) (fun _ => TellsLabel.isJson) (fun given => ?_) (fun given => ?_) fun _ =>
          TellsLabel.reads
      all_goals simp [told]
  build := by
    intro given complete
    simp only [slots, List.mem_cons, List.not_mem_nil, or_false, forall_eq_or_imp, forall_eq,
      false_or] at complete
    obtain ⟨name, layer, data, label⟩ := complete
    have labelled : (Json.told given "label" t.label).join = t.label := by
      by_cases mem : "label" ∈ given
      · rw [told_of_mem mem, Option.join_some]
      · rw [label.resolve_right mem]
        simp [Json.told, mem]
    simp [schema, told, told_of_mem name, told_of_mem layer, told_of_mem data, labelled]

theorem Presents.isJson {t : Tensor} {text : List Char} (h : t.Presents text) : IsJson text :=
  Gives.isJson h t.fits.isJson

theorem Presents.reads {t : Tensor} {text : List Char} (h : t.Presents text) :
    Begins text ∧ Meets read text fun out => out = some t :=
  ⟨h.isJson.begins, t.fits.reads h⟩

end Tensor

namespace Region

theorem reads_extent {n : Int32} {text : List Char} (h : text = integerText n.toInt) :
    Meets readExtent text fun out => out = some n := by
  have answers := answers_readExtent n
  rw [integerPieces, List.flatten_singleton, ← h] at answers
  exact answers.meets fun before rest spaces => by
    rw [readExtent, readExtent, integer_spaces spaces]

/-- What has been collected of a region. -/
def told (r : Region) (given : List String) : Draft where
  x := Json.told given "x" r.x
  y := Json.told given "y" r.y
  width := Json.told given "width" r.width
  height := Json.told given "height" r.height
  tensors := Json.told given "tensors" r.tensors

theorem fits (r : Region) : schema.Fits r.slots r.told r where
  takes := guarded.takes
  none := rfl
  fields := by
    refine .cons ?x <| .cons ?y <| .cons ?width <| .cons ?height <| .cons ?tensors .nil
    case x =>
      refine Field.fits_of_reader (fun (d : Draft) n => { d with x := some n }) rfl False.elim
        (fun _ => isJson_of_eq) (fun given => ?_) (fun given => ?_) fun _ => reads_extent
      all_goals simp [told]
    case y =>
      refine Field.fits_of_reader (fun (d : Draft) n => { d with y := some n }) rfl False.elim
        (fun _ => isJson_of_eq) (fun given => ?_) (fun given => ?_) fun _ => reads_extent
      all_goals simp [told]
    case width =>
      refine Field.fits_of_reader (fun (d : Draft) n => { d with width := some n }) rfl False.elim
        (fun _ => isJson_of_eq) (fun given => ?_) (fun given => ?_) fun _ => reads_extent
      all_goals simp [told]
    case height =>
      refine Field.fits_of_reader (fun (d : Draft) n => { d with height := some n }) rfl False.elim
        (fun _ => isJson_of_eq) (fun given => ?_) (fun given => ?_) fun _ => reads_extent
      all_goals simp [told]
    case tensors =>
      refine Field.fits_of_reader (fun (d : Draft) ts => { d with tensors := some ts }) rfl
        (fun _ => rfl)
        (fun _ tells => IsListOf.isJson tells fun _ _ => Tensor.Presents.isJson) (fun given => ?_)
        (fun given => ?_) fun _ => reads_list fun _ _ => Tensor.Presents.reads
      all_goals simp [told]
  build := by
    intro given complete
    simp only [slots, List.mem_cons, List.not_mem_nil, or_false, forall_eq_or_imp, forall_eq,
      false_or] at complete
    obtain ⟨x, y, width, height, tensors⟩ := complete
    simp [schema, told, told_of_mem x, told_of_mem y, told_of_mem width, told_of_mem height,
      getD_told tensors]

theorem Presents.isJson {r : Region} {text : List Char} (h : r.Presents text) : IsJson text :=
  Gives.isJson h r.fits.isJson

theorem Presents.reads {r : Region} {text : List Char} (h : r.Presents text) :
    Begins text ∧ Meets read text fun out => out = some r :=
  ⟨h.isJson.begins, r.fits.reads h⟩

end Region

namespace Frame

theorem reads_index {n : UInt64} {text : List Char} (h : text = integerText n.toNat) :
    Meets readIndex text fun out => out = some n := by
  have answers := answers_readIndex n
  rw [integerPieces, List.flatten_singleton, ← h] at answers
  exact answers.meets fun before rest spaces => by rw [readIndex, readIndex, integer_spaces spaces]

/-- What has been collected of a frame. -/
def told (f : Frame) (given : List String) : Draft where
  index := Json.told given "index" f.index
  regions := Json.told given "regions" f.regions

theorem fits (f : Frame) : schema.Fits f.slots f.told f where
  takes := guarded.takes
  none := rfl
  fields := by
    refine .cons ?index <| .cons ?regions .nil
    case index =>
      refine Field.fits_of_reader (fun (d : Draft) n => { d with index := some n }) rfl False.elim
        (fun _ => isJson_of_eq) (fun given => ?_) (fun given => ?_) fun _ => reads_index
      all_goals simp [told]
    case regions =>
      refine Field.fits_of_reader (fun (d : Draft) rs => { d with regions := some rs }) rfl
        (fun _ => rfl)
        (fun _ tells => IsListOf.isJson tells fun _ _ => Region.Presents.isJson) (fun given => ?_)
        (fun given => ?_) fun _ => reads_list fun _ _ => Region.Presents.reads
      all_goals simp [told]
  build := by
    intro given complete
    simp only [slots, List.mem_cons, List.not_mem_nil, or_false, forall_eq_or_imp, forall_eq,
      false_or] at complete
    obtain ⟨index, regions⟩ := complete
    simp [schema, told, told_of_mem index, getD_told regions]

/-- However a frame is presented, it is read. Where a field of it, or of a region or tensor in it,
is given twice, nothing is read. -/
theorem ofJson_presented (f : Frame) (p : Padded) :
    (f.Presents p.text → ofJson p.written = .ok f) ∧
      (Repeats p.text → ∃ complaint, ofJson p.written = .error complaint) := by
  constructor
  · intro presents
    have meets : Meets read p.text fun out => out = some f := f.fits.reads presents
    exact meets.document
  · intro repeats
    have meets : Meets read p.text fun out => out = none := guarded.refuses repeats
    exact meets.document_error

theorem ofJson_presented_shuffled :
    ofJson ("\x7b\"note\" : [\x7b\"index\":\"\\ud800\"\x7d] ,\"r\\u0065gions\":[[1,-2,3,4]]," ++
          "\"index\":7\x7d").toList = .ok ⟨7, [⟨1, -2, 3, 4, []⟩]⟩ ∧
      ∃ complaint, ofJson "\x7b\"index\":7,\"regions\":[\x7b\"x\":1,\"x\":1\x7d]\x7d".toList =
        .error complaint := by
  constructor
  · have written : (Padded.bare (objectText (shuffled.map Member.toEntry) [])).written =
        ("\x7b\"note\" : [\x7b\"index\":\"\\ud800\"\x7d] ,\"r\\u0065gions\":[[1,-2,3,4]]," ++
          "\"index\":7\x7d").toList := by
      decide +kernel
    rw [← written]
    exact (ofJson_presented _ (.bare _)).1 presents_shuffled
  · have written : (Padded.bare (objectText (twice.map Member.toEntry) [])).written =
        "\x7b\"index\":7,\"regions\":[\x7b\"x\":1,\"x\":1\x7d]\x7d".toList := by
      decide +kernel
    rw [← written]
    exact (ofJson_presented default (.bare _)).2 repeats_twice

end Frame

end FaceAnnotator
