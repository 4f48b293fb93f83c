import Mathlib.Data.List.Nodup

/-! YAML documents in block style: how they are written, line by line, and what they
stand for. The library that reads them is a parameter. Known of it is what each text on
a line of its own reads as, and that a document is read by its indentation if none of its
texts reaches beyond its line; what other texts are made into is left open. -/

set_option autoImplicit false

namespace Kperf.Yaml

inductive Scalar where
  | null
  | bool (value : Bool)
  | number (value : Rat)
  /-- Infinities, what is not a number, and times. -/
  | special (text : String)
  | string (text : String)
  deriving DecidableEq, Repr

/-- What a document decodes to, with the entries of a mapping in the order of the text. -/
inductive Tree where
  | scalar (value : Scalar)
  | mapping (entries : List (Scalar × Tree))
  | sequence (items : List Tree)

namespace Tree

/-- What a list of entries holds under a key: the last entry counts. -/
def held (entries : List (Scalar × Tree)) (key : Scalar) : Option Tree :=
  (entries.reverse.find? fun entry => entry.1 = key).map Prod.snd

def find : Tree → String → Option Tree
  | .mapping entries, key => held entries (.string key)
  | _, _ => none

/-- Keys followed from the root. -/
def path (tree : Tree) : List String → Option Tree
  | [] => some tree
  | key :: keys => (tree.find key).bind fun inner => inner.path keys

def text : Tree → Option String
  | .scalar (.string text) => some text
  | _ => none

def number : Tree → Option Rat
  | .scalar (.number value) => some value
  | _ => none

theorem mem_of_held {entries : List (Scalar × Tree)} {key : Scalar} {tree : Tree}
    (last : held entries key = some tree) : (key, tree) ∈ entries := by
  obtain ⟨⟨name, shown⟩, found, rfl⟩ := Option.map_eq_some_iff.mp last
  have same : name = key := by simpa using List.find?_some found
  subst name
  exact List.mem_reverse.mp (List.mem_of_find?_eq_some found)

theorem held_of_mem {entries : List (Scalar × Tree)} {key : Scalar} {tree : Tree}
    (member : (key, tree) ∈ entries) (single : ∀ other, (key, other) ∈ entries → other = tree) :
    held entries key = some tree := by
  have present : (entries.reverse.find? fun entry => entry.1 = key).isSome := by
    rw [List.find?_isSome]
    exact ⟨(key, tree), List.mem_reverse.mpr member, by simp⟩
  obtain ⟨entry, found⟩ := Option.isSome_iff_exists.mp present
  have last : held entries key = some entry.2 := by rw [held, found, Option.map_some]
  rw [last, single entry.2 (mem_of_held last)]

end Tree

/-! Texts on a line. -/

def isPrintable (char : Char) : Bool :=
  let code := char.toNat
  (0x20 ≤ code && code ≤ 0x7e) ||
    (0xa0 ≤ code && code ≤ 0xfffd && !([0x2028, 0x2029, 0xfeff].contains code)) || 0x10000 ≤ code

def isLine (text : String) : Bool := text.toList.all isPrintable

def indicators : List Char := "-?:,[]\x7b\x7d#&*!|>'\"%@`".toList

def startsPlain : List Char → Bool
  | [] => false
  | first :: rest =>
      if first = '-' || first = '?' || first = ':' then rest.head?.any (· ≠ ' ')
      else first ≠ ' ' && !indicators.contains first

/-- No colon before a blank, no number sign after one, and neither a colon nor a blank at
the end. -/
def staysPlain : List Char → Bool
  | [] => true
  | char :: rest =>
      (if char = ':' then rest.head?.any (· ≠ ' ')
       else if char = ' ' then rest.head?.any (· ≠ '#')
       else true) && staysPlain rest

/-- A text that needs no quotes. -/
def isPlain (text : String) : Bool :=
  isLine text && startsPlain text.toList && staysPlain text.toList

/-- A text that can stand without quotes as a key: it is no merge key, and the colon
comes early enough. -/
def isKey (text : String) : Bool := isPlain text && text ≠ "<<" && text.length < 1024

/-- The words that stand for no string, in YAML 1.1 or 1.2. -/
def reservedWords : List String :=
  ["y", "Y", "yes", "Yes", "YES", "n", "N", "no", "No", "NO", "on", "On", "ON", "off", "Off", "OFF",
   "true", "True", "TRUE", "false", "False", "FALSE", "null", "Null", "NULL"]

/-- A text that starts like a word and is none of those. -/
def isWord (text : String) : Bool :=
  text.toList.head?.any Char.isAlpha && !reservedWords.contains text

section Plain

variable {text : String}

theorem staysPlain_append {front rest : List Char} (frontStays : staysPlain front = true)
    (restStays : staysPlain rest = true) : staysPlain (front ++ rest) = true := by
  induction front with
  | nil => exact restStays
  | cons char front ih =>
      simp only [staysPlain, Bool.and_eq_true] at frontStays
      rw [List.cons_append, staysPlain, ih frontStays.2, Bool.and_true]
      -- a colon or a blank at the end of the front would not have been plain
      cases front with
      | nil =>
          have first := frontStays.1
          split_ifs at first ⊢ with colon blank
          · cases first
          · cases first
          · rfl
      | cons next front => exact frontStays.1

theorem startsPlain_append {front : List Char} (starts : startsPlain front = true)
    (rest : List Char) : startsPlain (front ++ rest) = true := by
  cases front with
  | nil => cases starts
  | cons first front =>
      rw [List.cons_append, startsPlain]
      rw [startsPlain] at starts
      split_ifs at starts ⊢ with sign
      · cases front with
        | nil => cases starts
        | cons next front => exact starts
      · exact starts

theorem isPlain_append {front rest : String} (plain : isPlain front = true)
    (line : isLine rest = true) (stays : staysPlain rest.toList = true) :
    isPlain (front ++ rest) = true := by
  simp only [isPlain, isLine, Bool.and_eq_true] at plain line ⊢
  rw [String.toList_append, List.all_append, plain.1.1, line]
  exact ⟨⟨rfl, startsPlain_append plain.1.2 _⟩, staysPlain_append plain.2 stays⟩

/-- The letters of names and labels. -/
def isNameChar (char : Char) : Bool := char.isAlphanum || char = '-' || char = '_' || char = '.'

theorem isAlphanum_code {char : Char} (alphanum : char.isAlphanum = true) :
    (65 ≤ char.toNat ∧ char.toNat ≤ 90) ∨ (97 ≤ char.toNat ∧ char.toNat ≤ 122) ∨
      (48 ≤ char.toNat ∧ char.toNat ≤ 57) := by
  obtain alpha | digit := Bool.or_eq_true_iff.mp alphanum
  · obtain upper | lower := Bool.or_eq_true_iff.mp alpha
    · obtain ⟨low, high⟩ := of_decide_eq_true upper
      exact .inl ⟨low, high⟩
    · obtain ⟨low, high⟩ := Bool.and_eq_true_iff.mp lower
      exact .inr (.inl ⟨of_decide_eq_true low, of_decide_eq_true high⟩)
  · obtain ⟨low, high⟩ := Bool.and_eq_true_iff.mp digit
    exact .inr (.inr ⟨of_decide_eq_true low, of_decide_eq_true high⟩)

theorem isNameChar_printable {char : Char} (name : isNameChar char = true) :
    isPrintable char = true ∧ char ≠ ':' ∧ char ≠ ' ' := by
  simp only [isNameChar, Bool.or_eq_true, decide_eq_true_eq] at name
  rcases name with ((alphanum | rfl) | rfl) | rfl
  · have code := isAlphanum_code alphanum
    have colon : ':'.toNat = 58 := rfl
    have blank : ' '.toNat = 32 := rfl
    refine ⟨?_, ?_, ?_⟩
    · simp only [isPrintable, Bool.or_eq_true, Bool.and_eq_true, decide_eq_true_eq]
      omega
    · rintro rfl
      omega
    · rintro rfl
      omega
  · decide
  · decide
  · decide

theorem staysPlain_of_isNameChar {letters : List Char}
    (names : ∀ char ∈ letters, isNameChar char = true) : staysPlain letters = true := by
  induction letters with
  | nil => rfl
  | cons char letters ih =>
      obtain ⟨first, later⟩ := List.forall_mem_cons.mp names
      obtain ⟨-, noColon, noBlank⟩ := isNameChar_printable first
      rw [staysPlain, if_neg noColon, if_neg noBlank, ih later, Bool.and_true]

/-- Names and labels need no quotes if they start with a letter or a digit. -/
theorem isPlain_of_isNameChar (names : ∀ char ∈ text.toList, isNameChar char = true)
    (first : text.toList.head?.any Char.isAlphanum = true) : isPlain text = true := by
  have line : isLine text = true :=
    List.all_eq_true.mpr fun char member => (isNameChar_printable (names char member)).1
  have starts : startsPlain text.toList = true := by
    cases letters : text.toList with
    | nil => rw [letters] at first; cases first
    | cons char rest =>
        rw [letters, List.head?_cons, Option.any_some] at first
        have others : ∀ other ∈ ' ' :: indicators, (!other.isAlphanum) = true :=
          List.all_eq_true.mp (by decide)
        have differs : ∀ other ∈ ' ' :: indicators, char ≠ other := by
          rintro other member rfl
          have noName := others char member
          rw [first] at noName
          cases noName
        have noSign : (char = '-' || char = '?' || char = ':') = false := by
          simp [differs '-' (by decide), differs '?' (by decide), differs ':' (by decide)]
        have noIndicator : indicators.contains char = false := by
          rw [Bool.eq_false_iff]
          intro member
          exact differs char (List.mem_cons_of_mem _ (List.contains_iff_mem.mp member)) rfl
        rw [startsPlain, noSign, if_neg Bool.false_ne_true, noIndicator]
        simpa using differs ' ' List.mem_cons_self
  rw [isPlain, line, starts, staysPlain_of_isNameChar names]
  rfl

end Plain

/-! Documents. -/

/-- A document as it is written. A collection below a key stands so many columns deeper
than the key; below a dash it stands behind the dash. -/
inductive Block where
  | scalar (text : String)
  | mapping (columns : Nat) (entries : List (String × Block))
  | sequence (columns : Nat) (items : List Block)

abbrev Line := List Char

def Line.indent (columns : Nat) (line : Line) : Line := List.replicate columns ' ' ++ line

/-- The lines of one entry, from those of its value. -/
def keyed (key : String) (value : Block) (lines : List Line) : List Line :=
  match value with
  | .scalar text => [key.toList ++ ':' :: ' ' :: text.toList]
  | .mapping columns _ => (key.toList ++ [':']) :: lines.map (Line.indent columns)
  | .sequence columns _ => (key.toList ++ [':']) :: lines.map (Line.indent columns)

/-- The lines of one item, from its own. -/
def dashed : List Line → List Line
  | [] => []
  | first :: rest => ('-' :: ' ' :: first) :: rest.map (Line.indent 2)

mutual

def Block.lines : Block → List Line
  | .scalar text => [text.toList]
  | .mapping _ entries => entryLines entries
  | .sequence _ items => itemLines items

def entryLines : List (String × Block) → List Line
  | [] => []
  | (key, value) :: rest => keyed key value value.lines ++ entryLines rest

def itemLines : List Block → List Line
  | [] => []
  | item :: rest => dashed item.lines ++ itemLines rest

end

def joined (lines : List Line) : String := String.ofList (['\n'].intercalate lines)

/-- A document that is a mapping, with a line break at its end. -/
def documentText (entries : List (String × Block)) : String := joined (entryLines entries ++ [[]])

def separator : Line := ['-', '-', '-']

/-- Documents in a row, each after a line break and before a separator. -/
def streamText (documents : List (List (String × Block))) : String :=
  joined ([] :: documents.flatMap (fun entries => entryLines entries ++ [separator]) ++ [[]])

structure Library where
  /-- What an unquoted text reads as, if not as a string. -/
  reads : String → Option Scalar
  /-- What a text reads as that stands alone behind a key. -/
  value : String → Option Tree
  /-- The documents of a stream, empty ones left out. -/
  decode : String → Option (List Tree)

/-- A mapping stands deeper than its key; a sequence need not. -/
def Block.nests : Block → Bool
  | .scalar _ => true
  | .mapping columns _ => 0 < columns
  | .sequence _ _ => true

namespace Library

variable (library : Library)

def scalar (text : String) : Scalar := (library.reads text).getD (.string text)

mutual

/-- Every text of the document can be read on its own line. -/
def readable : Block → Bool
  | .scalar text => isLine text && (library.value text).isSome
  | .mapping _ entries => !entries.isEmpty && readableEntries entries
  | .sequence _ items => !items.isEmpty && readableItems items

def readableEntries : List (String × Block) → Bool
  | [] => true
  | (key, value) :: rest => isKey key && value.nests && readable value && readableEntries rest

def readableItems : List Block → Bool
  | [] => true
  | item :: rest => readable item && readableItems rest

end

mutual

/-- What the document stands for. -/
def tree : Block → Tree
  | .scalar text => (library.value text).getD (.scalar .null)
  | .mapping _ entries => .mapping (treeEntries entries)
  | .sequence _ items => .sequence (treeItems items)

def treeEntries : List (String × Block) → List (Scalar × Tree)
  | [] => []
  | (key, value) :: rest => (library.scalar key, tree value) :: treeEntries rest

def treeItems : List Block → List Tree
  | [] => []
  | item :: rest => tree item :: treeItems rest

end

/-- What is documented of YAML: an unquoted text is a string unless it reads as something
else, as an empty one does, and block style is read by indentation. -/
structure Lawful : Prop where
  noString : ∀ text shown, library.reads text ≠ some (.string shown)
  empty : library.reads "" = some .null
  words : ∀ text, isWord text = true → library.reads text = none
  plain : ∀ text, isPlain text = true ∨ (library.reads text).isSome = true →
    library.value text = some (.scalar (library.scalar text))
  document : ∀ entries, entries ≠ [] → library.readableEntries entries = true →
    library.decode (documentText entries) = some [.mapping (library.treeEntries entries)]
  stream : ∀ documents,
    (∀ entries ∈ documents, entries ≠ [] ∧ library.readableEntries entries = true) →
    library.decode (streamText documents) =
      some (documents.map fun entries => .mapping (library.treeEntries entries))

variable {library}

theorem readableEntries_iff {entries : List (String × Block)} :
    library.readableEntries entries = true ↔ ∀ entry ∈ entries,
      isKey entry.1 = true ∧ entry.2.nests = true ∧ library.readable entry.2 = true := by
  induction entries with
  | nil => simp [readableEntries]
  | cons entry rest ih =>
      obtain ⟨key, value⟩ := entry
      simp [readableEntries, ih, and_assoc]

theorem treeEntries_eq (entries : List (String × Block)) :
    library.treeEntries entries =
      entries.map fun entry => (library.scalar entry.1, library.tree entry.2) := by
  induction entries with
  | nil => rw [treeEntries, List.map_nil]
  | cons entry rest ih =>
      obtain ⟨key, value⟩ := entry
      rw [treeEntries, ih, List.map_cons]

theorem scalar_eq_string_iff (lawful : library.Lawful) {text shown : String} :
    library.scalar text = .string shown ↔ library.reads text = none ∧ text = shown := by
  rw [scalar]
  cases read : library.reads text with
  | none => simp
  | some scalar =>
      constructor
      · intro same
        exact absurd (read.trans (congrArg some same)) (lawful.noString text shown)
      · intro same
        cases same.1

theorem tree_scalar (lawful : library.Lawful) {text : String}
    (known : isPlain text = true ∨ (library.reads text).isSome = true) :
    library.tree (.scalar text) = .scalar (library.scalar text) := by
  rw [tree, lawful.plain text known, Option.getD_some]

theorem text_tree_scalar (lawful : library.Lawful) {text shown : String}
    (known : isPlain text = true ∨ (library.reads text).isSome = true) :
    (library.tree (.scalar text)).text = some shown ↔ library.reads text = none ∧ text = shown := by
  rw [tree_scalar lawful known, ← scalar_eq_string_iff lawful]
  cases library.scalar text with
  | string other => simp [Tree.text]
  | _ => simp [Tree.text]

/-- Under a key that is written once, a mapping holds what is written there. -/
theorem held_treeEntries (lawful : library.Lawful) {entries : List (String × Block)}
    (distinct : (entries.map Prod.fst).Nodup) {key : String} {block : Block}
    (member : (key, block) ∈ entries) (string : library.reads key = none) :
    Tree.held (library.treeEntries entries) (.string key) = some (library.tree block) := by
  rw [treeEntries_eq]
  refine Tree.held_of_mem (List.mem_map.mpr ⟨(key, block), member, ?_⟩) fun other found => ?_
  · rw [(scalar_eq_string_iff lawful).mpr ⟨string, rfl⟩]
  · obtain ⟨⟨name, written⟩, there, same⟩ := List.mem_map.mp found
    obtain ⟨sameKey, rfl⟩ := Prod.mk.inj same
    obtain ⟨-, rfl⟩ := (scalar_eq_string_iff lawful).mp sameKey
    have once := List.inj_on_of_nodup_map distinct there member rfl
    rw [(Prod.mk.inj once).2]

/-- Two steps down, by keys that are words. -/
theorem path_pair (lawful : library.Lawful) {entries inner : List (String × Block)} {columns : Nat}
    {outer key : String} {block : Block} (distinct : (entries.map Prod.fst).Nodup)
    (member : (outer, .mapping columns inner) ∈ entries) (outerWord : isWord outer = true)
    (innerDistinct : (inner.map Prod.fst).Nodup) (innerMember : (key, block) ∈ inner)
    (word : isWord key = true) :
    (Tree.mapping (library.treeEntries entries)).path [outer, key] = some (library.tree block) := by
  rw [Tree.path, Tree.find, held_treeEntries lawful distinct member (lawful.words outer outerWord),
    Option.bind_some, tree, Tree.path, Tree.find,
    held_treeEntries lawful innerDistinct innerMember (lawful.words key word), Option.bind_some,
    Tree.path]

end Library

end Kperf.Yaml
