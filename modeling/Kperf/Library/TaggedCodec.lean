import Kperf.Library.Map
import Mathlib.Algebra.Field.Rat
import Mathlib.Data.Rat.Lemmas

/-! Struct values as trees of maps, lists and scalars, written and read by
struct tags. There are two sets of tags: a value may be written by either one,
and it is read by the second. Reading a null or an absent key gives the zero
value. A codec carries the proof that what it writes reads back. -/

set_option autoImplicit false

namespace Kperf

inductive Tree where
  | null
  | bool (value : Bool)
  | number (value : ℚ)
  | string (text : String)
  | list (items : List Tree)
  | map (entries : List (String × Tree))

namespace Tagged

inductive TagSet where
  | json
  | yaml
  deriving DecidableEq, Repr

structure Tag where
  key : String
  omitEmpty : Bool
  deriving DecidableEq, Repr

def Tag.plain (key : String) : Tag := ⟨key, false⟩

def Tag.omitempty (key : String) : Tag := ⟨key, true⟩

/-- How a value is written: by which tags, and which of its empty slices, named
by their paths, are nil. The first encoder writes a nil slice as null. -/
structure Encoder where
  tags : TagSet
  nilSlice : List String → Bool

def Encoder.below (encoder : Encoder) (key : String) : Encoder :=
  { encoder with nilSlice := fun path => encoder.nilSlice (key :: path) }

def readOr {α : Type} (zero : α) (decode : Tree → Option α) : Tree → Option α
  | .null => some zero
  | tree => decode tree

theorem readOr_of_ne_null {α : Type} {zero : α} {decode : Tree → Option α} {tree : Tree}
    (present : tree ≠ .null) : readOr zero decode tree = decode tree := by
  cases tree with
  | null => exact absurd rfl present
  | _ => rfl

structure Codec (α : Type) where
  encode : Encoder → α → Tree
  decode : Tree → Option α
  zero : α
  /-- What `omitempty` leaves out. -/
  empty : α → Bool
  read_encode : ∀ encoder value, readOr zero decode (encode encoder value) = some value
  eq_zero : ∀ value, empty value = true → value = zero

namespace Codec

variable {α : Type}

def read (codec : Codec α) : Tree → Option α := readOr codec.zero codec.decode

theorem read_eq (codec : Codec α) (encoder : Encoder) (value : α) :
    codec.read (codec.encode encoder value) = some value :=
  codec.read_encode encoder value

def int : Codec Int where
  encode _ number := .number number
  decode
    | .number value => if value.den = 1 then some value.num else none
    | _ => none
  zero := 0
  empty number := number = 0
  read_encode _ number := by simp [readOr]
  eq_zero number isEmpty := by simpa using isEmpty

def float : Codec ℚ where
  encode _ number := .number number
  decode
    | .number value => some value
    | _ => none
  zero := 0
  empty number := number = 0
  read_encode _ _ := rfl
  eq_zero number isEmpty := by simpa using isEmpty

def string : Codec String where
  encode _ text := .string text
  decode
    | .string text => some text
    | _ => none
  zero := ""
  empty text := text = ""
  read_encode _ _ := rfl
  eq_zero text isEmpty := by simpa using isEmpty

def bool : Codec Bool where
  encode _ value := .bool value
  decode
    | .bool value => some value
    | _ => none
  zero := false
  empty value := !value
  read_encode _ _ := rfl
  eq_zero value isEmpty := by simpa using isEmpty

/-- A type with one field that is written as the field. -/
def wrapped {β : Type} (codec : Codec α) (wrap : α → β) (unwrap : β → α)
    (wrap_unwrap : ∀ value, wrap (unwrap value) = value) : Codec β where
  encode encoder value := codec.encode encoder (unwrap value)
  decode tree := (codec.decode tree).map wrap
  zero := wrap codec.zero
  empty value := codec.empty (unwrap value)
  read_encode encoder value := by
    have back := codec.read_encode encoder (unwrap value)
    cases written : codec.encode encoder (unwrap value) with
    | null =>
        rw [written] at back
        simp only [readOr, Option.some.injEq] at back ⊢
        rw [back, wrap_unwrap]
    | _ =>
        rw [written, readOr_of_ne_null (by nofun)] at back
        rw [readOr_of_ne_null (by nofun), back, Option.map_some, wrap_unwrap]
  eq_zero value isEmpty := by
    rw [← wrap_unwrap value, codec.eq_zero (unwrap value) isEmpty]

theorem mapM_read_mapIdx {codec : Codec α} {write : Nat → α → Tree}
    (back : ∀ index item, codec.read (write index item) = some item) (items : List α) :
    (items.mapIdx write).mapM codec.read = some items := by
  induction items generalizing write with
  | nil => rfl
  | cons item rest ih =>
      have later := ih fun index item => back (index + 1) item
      simp [List.mapIdx_cons, List.mapM_cons, back, later]

/-- Slices; nil and empty ones are one value. -/
def slice (codec : Codec α) : Codec (List α) where
  encode encoder items :=
    if items.isEmpty && encoder.tags = .json && encoder.nilSlice [] then .null
    else .list (items.mapIdx fun index item => codec.encode (encoder.below (toString index)) item)
  decode
    | .list items => items.mapM codec.read
    | _ => none
  zero := []
  empty items := items.isEmpty
  read_encode encoder items := by
    split
    · rename_i isNil
      have isEmpty : items = [] := by
        simp only [Bool.and_eq_true, List.isEmpty_iff] at isNil
        exact isNil.1.1
      rw [isEmpty]
      rfl
    · exact mapM_read_mapIdx (fun index item => codec.read_eq _ item) items
  eq_zero items isEmpty := by simpa using isEmpty

theorem mapM_read_entries (codec : Codec α) (encoder : Encoder)
    (entries : List (Sigma fun _ : String => α)) :
    (entries.map fun entry =>
      (entry.1, codec.encode (encoder.below entry.1) entry.2)).mapM (fun entry =>
        (codec.read entry.2).map fun value => (⟨entry.1, value⟩ : Sigma fun _ : String => α)) =
      some entries := by
  induction entries with
  | nil => rfl
  | cons entry rest ih => simp [List.mapM_cons, codec.read_eq, ih]

/-- Maps with text keys. Two entries of one key are no map. -/
def dictionary (codec : Codec α) : Codec (StringMap α) where
  encode encoder map :=
    .map (map.entries.map fun entry => (entry.1, codec.encode (encoder.below entry.1) entry.2))
  decode
    | .map entries => do
        let found ← entries.mapM fun entry =>
          (codec.read entry.2).map fun value => (⟨entry.1, value⟩ : Sigma fun _ : String => α)
        if distinct : found.keys.Nodup then some ⟨found, distinct⟩ else none
    | _ => none
  zero := ∅
  empty map := map.entries.isEmpty
  read_encode encoder map := by
    have distinct : map.entries.keys.Nodup := map.nodupKeys
    rw [readOr_of_ne_null (by nofun)]
    simp only [mapM_read_entries, Option.bind_eq_bind, Option.bind_some, distinct, dite_true]
  eq_zero map isEmpty := by
    simp only [List.isEmpty_iff] at isEmpty
    exact AList.ext isEmpty

end Codec

/-- One field of a struct: its tags, how it is written, how the tree found under
its key is stored, and what it means to copy it from one struct to another. -/
structure StructField (R : Type) where
  json : Tag
  yaml : Tag
  encode : Encoder → R → Tree
  empty : R → Bool
  store : Option Tree → R → Option R
  copy : R → R → R
  store_encode : ∀ encoder source target,
    store (some (encode encoder source)) target = some (copy source target)
  store_none : ∀ source target, empty source = true →
    store none target = some (copy source target)

namespace StructField

variable {R S α : Type}

def tag (field : StructField R) : TagSet → Tag
  | .json => field.json
  | .yaml => field.yaml

def of (json yaml : Tag) (codec : Codec α) (get : R → α) (set : R → α → R) : StructField R where
  json := json
  yaml := yaml
  encode encoder source := codec.encode encoder (get source)
  empty source := codec.empty (get source)
  store
    | some tree, target => (codec.read tree).map (set target)
    | none, target => some (set target codec.zero)
  copy source target := set target (get source)
  store_encode encoder source target := by simp [codec.read_eq]
  store_none source target isEmpty := by simp [codec.eq_zero _ isEmpty]

@[simp] theorem of_copy (json yaml : Tag) (codec : Codec α) (get : R → α) (set : R → α → R)
    (source target : R) : (of json yaml codec get set).copy source target =
      set target (get source) := rfl

/-- A field of an embedded struct, written among the fields of the outer one. -/
def inline (get : R → S) (set : R → S → R) (field : StructField S) : StructField R where
  json := field.json
  yaml := field.yaml
  encode encoder source := field.encode encoder (get source)
  empty source := field.empty (get source)
  store tree target := (field.store tree (get target)).map (set target)
  copy source target := set target (field.copy (get source) (get target))
  store_encode encoder source target := by simp [field.store_encode]
  store_none source target isEmpty := by
    simp [field.store_none (get source) (get target) isEmpty]

@[simp] theorem inline_copy (get : R → S) (set : R → S → R) (field : StructField S)
    (source target : R) : (field.inline get set).copy source target =
      set target (field.copy (get source) (get target)) := rfl

end StructField

section Record

variable {R : Type} {fields : List (StructField R)}

def entries (encoder : Encoder) (fields : List (StructField R)) (source : R) :
    List (String × Tree) :=
  fields.filterMap fun field =>
    let tag := field.tag encoder.tags
    if tag.omitEmpty && field.empty source then none
    else some (tag.key, field.encode (encoder.below tag.key) source)

def readFields (fields : List (StructField R)) (zero : R) (found : List (String × Tree)) :
    Option R :=
  fields.foldlM (fun target field => field.store (found.lookup field.yaml.key) target) zero

/-- A table of fields describes its struct: both sets of tags name a field alike,
no key stands twice, and the fields together are the whole value. -/
structure Describes (fields : List (StructField R)) (zero : R) : Prop where
  agree : ∀ field ∈ fields, field.json.key = field.yaml.key
  distinct : (fields.map fun field => field.yaml.key).Nodup
  complete : ∀ source, fields.foldl (fun target field => field.copy source target) zero = source

theorem StructField.tag_key {field : StructField R} (agree : field.json.key = field.yaml.key)
    (tags : TagSet) : (field.tag tags).key = field.yaml.key := by
  cases tags with
  | json => exact agree
  | yaml => rfl

theorem entries_cons (encoder : Encoder) (field : StructField R) (rest : List (StructField R))
    (source : R) :
    entries encoder (field :: rest) source =
      (if (field.tag encoder.tags).omitEmpty && field.empty source then []
       else [((field.tag encoder.tags).key,
        field.encode (encoder.below (field.tag encoder.tags).key) source)]) ++
        entries encoder rest source := by
  rw [entries, List.filterMap_cons]
  dsimp only
  split_ifs <;> rfl

theorem lookup_entries_of_notMem (agree : ∀ field ∈ fields, field.json.key = field.yaml.key)
    {key : String} (absent : key ∉ fields.map fun field => field.yaml.key) (encoder : Encoder)
    (source : R) : (entries encoder fields source).lookup key = none := by
  induction fields with
  | nil => rfl
  | cons field rest ih =>
      obtain ⟨alike, restAlike⟩ := List.forall_mem_cons.mp agree
      simp only [List.map_cons, List.mem_cons, not_or] at absent
      rw [entries_cons, List.lookup_append, ih restAlike absent.2, Option.or_none]
      split_ifs
      · rfl
      · rw [StructField.tag_key alike, List.lookup_cons, beq_false_of_ne absent.1]
        rfl

/-- Under its key stands the field, unless it was empty and left out. -/
theorem lookup_entries (agree : ∀ field ∈ fields, field.json.key = field.yaml.key)
    (distinct : (fields.map fun field => field.yaml.key).Nodup) (encoder : Encoder) (source : R)
    {field : StructField R} (member : field ∈ fields) :
    ((entries encoder fields source).lookup field.yaml.key = none ∧ field.empty source = true) ∨
      (entries encoder fields source).lookup field.yaml.key =
        some (field.encode (encoder.below field.yaml.key) source) := by
  induction fields with
  | nil => cases member
  | cons first rest ih =>
      obtain ⟨alike, restAlike⟩ := List.forall_mem_cons.mp agree
      obtain ⟨fresh, distinctRest⟩ := List.nodup_cons.mp distinct
      rw [entries_cons, List.lookup_append]
      cases List.mem_cons.mp member with
      | inl same =>
          subst first
          have later := lookup_entries_of_notMem restAlike fresh encoder source
          split_ifs with omitted
          · left
            simp only [Bool.and_eq_true] at omitted
            exact ⟨by simpa using later, omitted.2⟩
          · right
            simp [StructField.tag_key alike]
      | inr inRest =>
          have differs : field.yaml.key ≠ first.yaml.key := by
            intro same
            exact fresh (List.mem_map.mpr ⟨field, inRest, same⟩)
          have skipped : List.lookup field.yaml.key
              (if (first.tag encoder.tags).omitEmpty && first.empty source then []
               else [((first.tag encoder.tags).key,
                first.encode (encoder.below (first.tag encoder.tags).key) source)]) = none := by
            split_ifs
            · rfl
            · rw [StructField.tag_key alike, List.lookup_cons, beq_false_of_ne differs]
              rfl
          rw [skipped, Option.none_or]
          exact ih restAlike distinctRest inRest

theorem Describes.readFields_entries {zero : R} (table : Describes fields zero)
    (encoder : Encoder) (source : R) :
    readFields fields zero (entries encoder fields source) = some source := by
  -- Each field is stored as a copy of the source's, whatever was stored before.
  have stored : ∀ field ∈ fields, ∀ target,
      field.store ((entries encoder fields source).lookup field.yaml.key) target =
        some (field.copy source target) := by
    intro field member target
    rcases lookup_entries table.agree table.distinct encoder source member with
      ⟨absent, isEmpty⟩ | found
    · rw [absent]
      exact field.store_none source target isEmpty
    · rw [found]
      exact field.store_encode _ source target
  have copied : ∀ rest : List (StructField R), rest ⊆ fields → ∀ target,
      readFields rest target (entries encoder fields source) =
        some (rest.foldl (fun target field => field.copy source target) target) := by
    intro rest
    induction rest with
    | nil => exact fun _ _ => rfl
    | cons field rest ih =>
        intro within target
        obtain ⟨member, later⟩ := List.cons_subset.mp within
        rw [readFields, List.foldlM_cons, stored field member, List.foldl_cons]
        exact ih later _
  rw [copied fields (List.Subset.refl _), table.complete]

def Codec.record (fields : List (StructField R)) (zero : R) (table : Describes fields zero) :
    Codec R where
  encode encoder source := .map (entries encoder fields source)
  decode
    | .map found => readFields fields zero found
    | _ => none
  zero := zero
  empty _ := false
  read_encode encoder source := table.readFields_entries encoder source
  eq_zero _ isEmpty := by cases isEmpty

theorem Codec.record_ne_null {zero : R} (table : Describes fields zero) (encoder : Encoder)
    (source : R) : (Codec.record fields zero table).encode encoder source ≠ .null :=
  Tree.noConfusion

end Record

/-- Pointers. What they point to is never written as null. -/
def Codec.pointer {α : Type} (codec : Codec α)
    (present : ∀ encoder value, codec.encode encoder value ≠ .null := by
      first | exact Codec.record_ne_null _ | nofun) :
    Codec (Option α) where
  encode encoder
    | some value => codec.encode encoder value
    | none => .null
  decode tree := (codec.decode tree).map some
  zero := none
  empty value := value.isNone
  read_encode encoder value := by
    cases value with
    | none => rfl
    | some value =>
        have back := codec.read_encode encoder value
        rw [readOr_of_ne_null (present encoder value)] at back
        dsimp only
        rw [readOr_of_ne_null (present encoder value), back, Option.map_some]
  eq_zero value isEmpty := by simpa using isEmpty

end Tagged

end Kperf
