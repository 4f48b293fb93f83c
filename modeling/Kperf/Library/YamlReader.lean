import Kperf.Library.YamlBlock

/-! A reader of block style, for any reader of unquoted texts: a line is one text, one
item or one entry, and what stands below it belongs to it. It takes what `YamlBlock`
writes for what it stands for. -/

set_option autoImplicit false

namespace Kperf.Yaml.Reader

/-! Texts. -/

section Texts

/-- The text between double quotes, if nothing in it is escaped. -/
def quoted : Line → Option String
  | '"' :: rest =>
      if rest.getLast? = some '"' && !rest.dropLast.contains '"' && !rest.dropLast.contains '\\' then
        some (String.ofList rest.dropLast)
      else none
  | _ => none

def value (reads : String → Option Scalar) (text : String) : Option Tree :=
  if text = "" || isPlain text then some (.scalar ((reads text).getD (.string text)))
  else (quoted text.toList).map fun shown => .scalar (.string shown)

def isIndented : Line → Bool
  | ' ' :: _ => true
  | _ => false

def isItem : Line → Bool
  | '-' :: ' ' :: _ => true
  | _ => false

/-- The key of an entry, and its text if one follows on the line. -/
def cutKey : Line → Option (Line × Option Line)
  | [] => none
  | [':'] => some ([], none)
  | ':' :: ' ' :: text => some ([], some text)
  | char :: rest => (cutKey rest).map fun cut => (char :: cut.1, cut.2)

variable {reads : String → Option Scalar} {line rest : Line}

theorem staysPlain_of_append (front : Line) (stays : staysPlain (front ++ rest) = true) :
    staysPlain rest = true := by
  induction front with
  | nil => exact stays
  | cons char front ih =>
      rw [List.cons_append, staysPlain, Bool.and_eq_true] at stays
      exact ih stays.2

/-- A key that stays plain has no colon at which the line could be cut before its end. -/
theorem cutKey_append (rest : Line) {key : Line} (stays : staysPlain key = true)
    (ends : cutKey (':' :: rest) = some ([], rest.tail?)) :
    cutKey (key ++ ':' :: rest) = some (key, rest.tail?) := by
  induction key with
  | nil => exact ends
  | cons char key ih =>
      rw [staysPlain, Bool.and_eq_true] at stays
      have cut : cutKey (char :: (key ++ ':' :: rest)) =
          (cutKey (key ++ ':' :: rest)).map fun cut => (char :: cut.1, cut.2) := by
        refine cutKey.eq_4 char _ ?_ ?_
        · intro _ nothing
          simp at nothing
        · rintro text rfl blank
          cases key with
          | nil => simp at stays
          | cons next key =>
              obtain ⟨rfl, -⟩ := List.cons.inj blank
              simp at stays
      rw [List.cons_append, cut, ih stays.2, Option.map_some]

theorem startsPlain_not_isItem (starts : startsPlain line = true) : isItem (line ++ rest) = false := by
  cases line with
  | nil => cases starts
  | cons first line =>
      by_cases dash : first = '-'
      · subst first
        cases line with
        | nil => simp [startsPlain] at starts
        | cons next line =>
            simp only [startsPlain] at starts
            simp only [List.cons_append]
            unfold isItem
            split
            · rename_i same
              obtain ⟨-, same⟩ := List.cons.inj same
              obtain ⟨rfl, -⟩ := List.cons.inj same
              simp at starts
            · rfl
      · unfold isItem
        split
        · rename_i same
          exact absurd (List.cons.inj same).1 dash
        · rfl

theorem startsPlain_not_isIndented (starts : startsPlain line = true) :
    isIndented (line ++ rest) = false := by
  cases line with
  | nil => cases starts
  | cons first line =>
      unfold isIndented
      split
      · rename_i same
        obtain ⟨rfl, -⟩ := List.cons.inj same
        revert starts
        simp [startsPlain]
      · rfl

theorem value_of_plain {text : String} (plain : text = "" ∨ isPlain text = true) :
    value reads text = some (.scalar ((reads text).getD (.string text))) := by
  rw [value, if_pos]
  rwa [Bool.or_eq_true, decide_eq_true_eq]

theorem isItem_eq_false_of_value {text : String} {reads : String → Option Scalar} (known : (value reads text).isSome = true) :
    isItem text.toList = false := by
  rw [value] at known
  split at known
  · rename_i plain
    rw [Bool.or_eq_true, decide_eq_true_eq] at plain
    cases plain with
    | inl empty =>
        subst text
        rfl
    | inr plain =>
        simp only [isPlain, Bool.and_eq_true] at plain
        rw [← List.append_nil text.toList]
        exact startsPlain_not_isItem plain.1.2
  · rw [Option.isSome_map] at known
    unfold isItem
    split
    · rename_i same
      rw [same, quoted] at known
      · cases known
      · rintro rest ⟨⟩
    · rfl

theorem quote_not_startsPlain (rest : Line) : startsPlain ('"' :: rest) = false := by
  rw [startsPlain, if_neg (by decide)]
  decide

theorem quoted_eq_none (starts : startsPlain line = true) : quoted (line ++ rest) = none := by
  cases line with
  | nil => cases starts
  | cons first line =>
      rw [List.cons_append]
      refine quoted.eq_2 _ fun others same => ?_
      obtain ⟨rfl, -⟩ := List.cons.inj same
      rw [quote_not_startsPlain] at starts
      cases starts

/-- The line of an entry is no text that stands alone. -/
theorem value_entry {key : String} (isKey : isKey key = true)
    (breaks : staysPlain (':' :: rest) = false) :
    value reads (String.ofList (key.toList ++ ':' :: rest)) = none := by
  have plainKey : startsPlain key.toList = true := by
    simp only [Yaml.isKey, isPlain, Bool.and_eq_true] at isKey
    exact isKey.1.1.1.2
  have notPlain : isPlain (String.ofList (key.toList ++ ':' :: rest)) = false := by
    rw [isPlain, Bool.and_eq_false_iff, String.toList_ofList]
    refine .inr (Bool.eq_false_iff.mpr fun stays => ?_)
    rw [staysPlain_of_append _ stays] at breaks
    cases breaks
  have present : String.ofList (key.toList ++ ':' :: rest) ≠ "" := by
    intro nothing
    have letters := congrArg String.toList nothing
    simp at letters
  rw [value, String.toList_ofList, quoted_eq_none plainKey, if_neg, Option.map_none]
  rw [notPlain, Bool.or_false, decide_eq_true_eq]
  exact present

end Texts

/-! Lines. -/

section Lines

variable (reads : String → Option Scalar)

def inline : List Line → Option Tree
  | [line] => value reads (String.ofList line)
  | _ => none

def isBelow (line : Line) : Bool := isIndented line || isItem line

/-- Lines without the blanks that the first one starts with. -/
def dedent : List Line → List Line
  | [] => []
  | first :: rest => (first :: rest).map (List.drop (first.takeWhile (· = ' ')).length)

mutual

def readBlock : Nat → List Line → Option Tree
  | 0, _ => none
  | fuel + 1, lines =>
      if lines.head?.any isItem then (readItems fuel lines).map .sequence
      else
        match inline reads lines with
        | some tree => some tree
        | none => (readEntries fuel lines).map .mapping

def readEntries : Nat → List Line → Option (List (Scalar × Tree))
  | 0, _ => none
  | _ + 1, [] => some []
  | fuel + 1, first :: rest =>
      match cutKey first with
      | none => none
      | some (key, some text) => do
          let tree ← value reads (String.ofList text)
          let entries ← readEntries fuel rest
          some (((reads (String.ofList key)).getD (.string (String.ofList key)), tree) :: entries)
      | some (key, none) => do
          let tree ← readBlock fuel (dedent (rest.takeWhile isBelow))
          let entries ← readEntries fuel (rest.dropWhile isBelow)
          some (((reads (String.ofList key)).getD (.string (String.ofList key)), tree) :: entries)

def readItems : Nat → List Line → Option (List Tree)
  | 0, _ => none
  | _ + 1, [] => some []
  | fuel + 1, first :: rest => do
      let tree ← readBlock fuel
        (first.drop 2 :: (rest.takeWhile isIndented).map (List.drop 2))
      let items ← readItems fuel (rest.dropWhile isIndented)
      some (tree :: items)

end

/-- What bounds the depth of the calls. -/
def weight : List Line → Nat
  | [] => 0
  | line :: rest => line.length + 1 + weight rest

def decode (text : String) : Option (List Tree) :=
  let lines := (text.toList.splitOn '\n').filter (!·.isEmpty)
  ((lines.splitOn separator).filter (!·.isEmpty)).mapM fun document =>
    readBlock reads (2 * weight document + 2) document

def library : Library where
  reads := reads
  value := value reads
  decode := decode reads

theorem library_decode : (library reads).decode = decode reads := rfl

end Lines

/-! What is written is read back. -/

section Written

variable {reads : String → Option Scalar}

theorem span_append {passes : Line → Bool} {front rest : List Line}
    (all : ∀ line ∈ front, passes line = true) (ends : rest.head?.any passes = false) :
    (front ++ rest).takeWhile passes = front ∧ (front ++ rest).dropWhile passes = rest := by
  rw [List.takeWhile_append_of_pos all, List.dropWhile_append_of_pos all]
  cases rest with
  | nil => simp
  | cons first rest =>
      rw [List.head?_cons, Option.any_some] at ends
      simp [ends]

theorem dedent_indent (columns : Nat) {lines : List Line}
    (tight : lines.head?.any isIndented = false) :
    dedent (lines.map (Line.indent columns)) = lines := by
  cases lines with
  | nil => rfl
  | cons first rest =>
      have starts : first.takeWhile (· = ' ') = [] := by
        cases first with
        | nil => rfl
        | cons char first =>
            refine List.takeWhile_cons_of_neg fun blank => ?_
            rw [of_decide_eq_true blank] at tight
            cases tight
      have blanks : ∀ char ∈ List.replicate columns ' ', decide (char = ' ') = true := by
        intro char member
        exact decide_eq_true (List.eq_of_mem_replicate member)
      have depth : ((Line.indent columns first).takeWhile (· = ' ')).length = columns := by
        rw [Line.indent, List.takeWhile_append_of_pos blanks, starts, List.append_nil,
          List.length_replicate]
      have undone : ∀ line : Line, (Line.indent columns line).drop columns = line := by
        intro line
        rw [Line.indent, List.drop_left' List.length_replicate]
      rw [List.map_cons, dedent, depth, ← List.map_cons, List.map_map]
      exact List.map_id'' undone _

theorem isIndented_indent {columns : Nat} (deeper : 0 < columns) (line : Line) :
    isIndented (Line.indent columns line) = true := by
  obtain ⟨fewer, rfl⟩ := Nat.exists_eq_add_one_of_ne_zero (Nat.ne_of_gt deeper)
  rfl

theorem isBelow_indent {line : Line} (below : isBelow line = true) (columns : Nat) :
    isBelow (Line.indent columns line) = true := by
  cases columns with
  | zero => exact below
  | succ fewer => rfl

theorem isBelow_of_mem_itemLines {items : List Block} {line : Line}
    (member : line ∈ itemLines items) : isBelow line = true := by
  induction items with
  | nil => cases member
  | cons item rest ih =>
      rw [itemLines] at member
      cases List.mem_append.mp member with
      | inr later => exact ih later
      | inl here =>
          cases lines : item.lines with
          | nil =>
              rw [lines] at here
              cases here
          | cons first others =>
              rw [lines, dashed] at here
              cases List.mem_cons.mp here with
              | inl same =>
                  subst line
                  rfl
              | inr below =>
                  obtain ⟨other, -, rfl⟩ := List.mem_map.mp below
                  rw [isBelow, isIndented_indent (by decide), Bool.true_or]

/-- An entry starts with its key and a colon, which a blank or nothing follows. -/
theorem keyed_eq (key : String) (value : Block) (lines : List Line) :
    ∃ tail others, keyed key value lines = (key.toList ++ ':' :: tail) :: others ∧
      staysPlain (':' :: tail) = false := by
  cases value with
  | scalar text => exact ⟨' ' :: text.toList, [], rfl, by simp [staysPlain]⟩
  | mapping columns entries => exact ⟨[], _, rfl, rfl⟩
  | sequence columns items => exact ⟨[], _, rfl, rfl⟩

theorem startsPlain_of_isKey {key : String} (isKey : isKey key = true) :
    startsPlain key.toList = true ∧ staysPlain key.toList = true := by
  simp only [Yaml.isKey, isPlain, Bool.and_eq_true] at isKey
  exact ⟨isKey.1.1.1.2, isKey.1.1.2⟩

theorem any_isBelow (head : Option Line) :
    head.any isBelow = (head.any isIndented || head.any isItem) := by
  cases head <;> rfl

theorem entryLines_head {entries : List (String × Block)}
    (readable : (library reads).readableEntries entries = true) :
    (entryLines entries).head?.any isBelow = false := by
  cases entries with
  | nil => rfl
  | cons entry rest =>
      obtain ⟨key, value⟩ := entry
      obtain ⟨tail, others, keyed, -⟩ := keyed_eq key value value.lines
      have starts := (startsPlain_of_isKey
        (Library.readableEntries_iff.mp readable _ List.mem_cons_self).1).1
      rw [entryLines, keyed, List.cons_append, List.head?_cons, Option.any_some, isBelow,
        startsPlain_not_isIndented starts, startsPlain_not_isItem starts, Bool.or_false]

theorem inline_entryLines {entries : List (String × Block)} (present : entries ≠ [])
    (readable : (library reads).readableEntries entries = true) :
    inline reads (entryLines entries) = none := by
  cases entries with
  | nil => exact absurd rfl present
  | cons entry rest =>
      obtain ⟨key, value⟩ := entry
      obtain ⟨tail, others, keyed, breaks⟩ := keyed_eq key value value.lines
      have isKey := (Library.readableEntries_iff.mp readable _ List.mem_cons_self).1
      rw [entryLines, keyed, List.cons_append]
      cases others ++ entryLines rest with
      | nil => exact value_entry isKey breaks
      | cons second more => rfl

theorem lines_ne_nil : ∀ {block : Block}, (library reads).readable block = true → block.lines ≠ []
  | .scalar _, _ => by simp [Block.lines]
  | .mapping _ [], readable => by simp [Library.readable] at readable
  | .mapping _ ((key, value) :: rest), _ => by
      obtain ⟨tail, others, keyed, -⟩ := keyed_eq key value value.lines
      simp [Block.lines, entryLines, keyed]
  | .sequence _ [], readable => by simp [Library.readable] at readable
  | .sequence _ (item :: rest), readable => by
      rw [Library.readable, Bool.and_eq_true, Library.readableItems, Bool.and_eq_true] at readable
      obtain ⟨first, others, lines⟩ := List.exists_cons_of_ne_nil (lines_ne_nil readable.2.1)
      simp [Block.lines, itemLines, lines, dashed]

/-- The first line below a key is not indented further. -/
theorem lines_head {block : Block} (readable : (library reads).readable block = true)
    (collection : ∀ text, block ≠ .scalar text) :
    block.lines.head?.any isIndented = false := by
  cases block with
  | scalar text => exact absurd rfl (collection text)
  | mapping columns entries =>
      rw [Library.readable, Bool.and_eq_true] at readable
      have head := entryLines_head readable.2
      rw [any_isBelow, Bool.or_eq_false_iff] at head
      exact head.1
  | sequence columns items =>
      cases items with
      | nil => rfl
      | cons item rest =>
          rw [Library.readable, Bool.and_eq_true, Library.readableItems, Bool.and_eq_true] at readable
          obtain ⟨first, others, lines⟩ := List.exists_cons_of_ne_nil (lines_ne_nil readable.2.1)
          rw [Block.lines, itemLines, lines]
          rfl

/-! The depth of the calls. -/

theorem weight_append (front rest : List Line) :
    weight (front ++ rest) = weight front + weight rest := by
  induction front with
  | nil => rw [List.nil_append, weight, Nat.zero_add]
  | cons line front ih =>
      rw [List.cons_append, weight, weight, ih]
      omega

theorem weight_le_indent (columns : Nat) (lines : List Line) :
    weight lines ≤ weight (lines.map (Line.indent columns)) := by
  induction lines with
  | nil => exact Nat.le_refl _
  | cons line lines ih =>
      simp only [weight, List.map_cons, Line.indent, List.length_append] at ih ⊢
      omega

theorem weight_dashed {lines : List Line} (present : lines ≠ []) :
    weight lines + 2 ≤ weight (dashed lines) := by
  obtain ⟨first, rest, rfl⟩ := List.exists_cons_of_ne_nil present
  have others := weight_le_indent 2 rest
  simp only [weight, dashed, List.length_cons] at others ⊢
  omega

theorem weight_keyed (key : String) (value : Block) :
    weight value.lines + 2 ≤ weight (keyed key value value.lines) := by
  have nested (columns : Nat) : weight value.lines + 2 ≤
      weight ((key.toList ++ [':']) :: value.lines.map (Line.indent columns)) := by
    have deeper := weight_le_indent columns value.lines
    simp only [weight, List.length_append] at deeper ⊢
    simp only [List.length_singleton]
    omega
  cases value with
  | scalar text =>
      simp [weight, Block.lines, keyed]
  | mapping columns entries => exact nested columns
  | sequence columns items => exact nested columns

/-! One entry, one item. -/

theorem readEntries_scalar {key text : String} {fuel : Nat} {lines : List Line} {tree : Tree}
    {entries : List (Scalar × Tree)} (isKey : isKey key = true)
    (known : value reads text = some tree) (later : readEntries reads fuel lines = some entries) :
    readEntries reads (fuel + 1) ((key.toList ++ ':' :: ' ' :: text.toList) :: lines) =
      some (((library reads).scalar key, tree) :: entries) := by
  have cut := cutKey_append (' ' :: text.toList) (startsPlain_of_isKey isKey).2 rfl
  simp only [readEntries, cut, List.tail?_cons, String.ofList_toList, known, later]
  rfl

theorem readEntries_nested {key : String} {columns fuel : Nat} {block : Block} {lines : List Line}
    {tree : Tree} {entries : List (Scalar × Tree)} (isKey : isKey key = true)
    (head : block.lines.head?.any isIndented = false)
    (below : ∀ line ∈ block.lines.map (Line.indent columns), isBelow line = true)
    (next : lines.head?.any isBelow = false)
    (inner : readBlock reads fuel block.lines = some tree)
    (later : readEntries reads fuel lines = some entries) :
    readEntries reads (fuel + 1)
        ((key.toList ++ [':']) :: (block.lines.map (Line.indent columns) ++ lines)) =
      some (((library reads).scalar key, tree) :: entries) := by
  have cut := cutKey_append [] (startsPlain_of_isKey isKey).2 rfl
  obtain ⟨taken, dropped⟩ := span_append below next
  simp only [readEntries, cut, List.tail?_nil, taken, dropped, dedent_indent columns head, inner,
    later, String.ofList_toList]
  rfl

theorem readItems_item {fuel : Nat} {item : Block} {lines : List Line} {tree : Tree}
    {items : List Tree} (present : item.lines ≠ []) (next : lines.head?.any isIndented = false)
    (inner : readBlock reads fuel item.lines = some tree)
    (later : readItems reads fuel lines = some items) :
    readItems reads (fuel + 1) (dashed item.lines ++ lines) = some (tree :: items) := by
  obtain ⟨first, rest, spelled⟩ := List.exists_cons_of_ne_nil present
  have below : ∀ line ∈ rest.map (Line.indent 2), isIndented line = true := by
    intro line member
    obtain ⟨other, -, rfl⟩ := List.mem_map.mp member
    exact isIndented_indent (by decide) other
  have undone : (rest.map (Line.indent 2)).map (List.drop 2) = rest := by
    rw [List.map_map]
    exact List.map_id'' (fun _ => rfl) _
  obtain ⟨taken, dropped⟩ := span_append below next
  rw [spelled] at inner
  simp only [spelled, dashed, List.cons_append, readItems, taken, dropped, undone, later,
    List.drop_succ_cons, List.drop_zero, inner]
  rfl

theorem itemLines_head (items : List Block) : (itemLines items).head?.any isIndented = false := by
  induction items with
  | nil => rfl
  | cons item rest ih =>
      rw [itemLines]
      cases item.lines with
      | nil => exact ih
      | cons first others => rfl

theorem itemLines_isItem {items : List Block} (present : itemLines items ≠ []) :
    (itemLines items).head?.any isItem = true := by
  obtain ⟨first, others, spelled⟩ := List.exists_cons_of_ne_nil present
  have below : isBelow first = true :=
    isBelow_of_mem_itemLines (spelled ▸ List.mem_cons_self)
  have tight := itemLines_head items
  rw [spelled, List.head?_cons, Option.any_some] at tight ⊢
  rwa [isBelow, tight, Bool.false_or] at below

mutual

theorem readBlock_lines : ∀ {block : Block} {fuel : Nat}, (library reads).readable block = true →
    2 * weight block.lines + 2 ≤ fuel →
      readBlock reads fuel block.lines = some ((library reads).tree block)
  | _, 0, _, enough => by omega
  | .scalar text, fuel + 1, readable, _ => by
      rw [Library.readable, Bool.and_eq_true] at readable
      obtain ⟨tree, known⟩ := Option.isSome_iff_exists.mp readable.2
      have notItem : isItem text.toList = false := @isItem_eq_false_of_value text reads readable.2
      have shown : inline reads [text.toList] = some tree := by
        rw [inline, String.ofList_toList]
        exact known
      simp only [readBlock, Block.lines, List.head?_cons, Option.any_some, notItem, shown,
        Library.tree, known]
      rfl
  | .mapping columns entries, fuel + 1, readable, enough => by
      rw [Library.readable, Bool.and_eq_true] at readable
      have present : entries ≠ [] := by simpa using readable.1
      have head := entryLines_head readable.2
      rw [any_isBelow, Bool.or_eq_false_iff] at head
      rw [Block.lines] at enough ⊢
      rw [readBlock, head.2, if_neg Bool.false_ne_true, inline_entryLines present readable.2]
      simp only [readEntries_lines readable.2 (by omega : _ ≤ fuel), Option.map_some, Library.tree]
  | .sequence columns items, fuel + 1, readable, enough => by
      have present := lines_ne_nil readable
      rw [Library.readable, Bool.and_eq_true] at readable
      rw [Block.lines] at enough present ⊢
      rw [readBlock, itemLines_isItem present, if_pos rfl, readItems_lines readable.2 (by omega : _ ≤ fuel),
        Option.map_some, Library.tree]

theorem readEntries_lines : ∀ {entries : List (String × Block)} {fuel : Nat},
    (library reads).readableEntries entries = true → 2 * weight (entryLines entries) + 1 ≤ fuel →
      readEntries reads fuel (entryLines entries) = some ((library reads).treeEntries entries)
  | _, 0, _, enough => by omega
  | [], fuel + 1, _, _ => by rw [entryLines, readEntries, Library.treeEntries]
  | (key, .scalar text) :: rest, fuel + 1, readable, enough => by
      simp only [Library.readableEntries, Library.readable, Bool.and_eq_true] at readable
      obtain ⟨⟨⟨isKey, -⟩, -, known⟩, later⟩ := readable
      obtain ⟨tree, known⟩ := Option.isSome_iff_exists.mp known
      have heavier := weight_keyed key (.scalar text)
      rw [entryLines, weight_append] at enough
      rw [entryLines, Library.treeEntries, Library.tree, known]
      exact readEntries_scalar isKey known (readEntries_lines later (by omega))
  | (key, .mapping columns inner) :: rest, fuel + 1, readable, enough => by
      simp only [Library.readableEntries, Bool.and_eq_true] at readable
      obtain ⟨⟨⟨isKey, nests⟩, readable⟩, later⟩ := readable
      have heavier := weight_keyed key (.mapping columns inner)
      rw [entryLines, weight_append] at enough
      rw [entryLines, Library.treeEntries]
      refine readEntries_nested isKey (lines_head readable nofun) ?_ (entryLines_head later)
        (readBlock_lines readable (by omega)) (readEntries_lines later (by omega))
      intro line member
      obtain ⟨other, -, rfl⟩ := List.mem_map.mp member
      rw [isBelow, isIndented_indent (of_decide_eq_true nests), Bool.true_or]
  | (key, .sequence columns inner) :: rest, fuel + 1, readable, enough => by
      simp only [Library.readableEntries, Bool.and_eq_true] at readable
      obtain ⟨⟨⟨isKey, -⟩, readable⟩, later⟩ := readable
      have heavier := weight_keyed key (.sequence columns inner)
      rw [entryLines, weight_append] at enough
      rw [entryLines, Library.treeEntries]
      refine readEntries_nested isKey (lines_head readable nofun) ?_ (entryLines_head later)
        (readBlock_lines readable (by omega)) (readEntries_lines later (by omega))
      intro line member
      obtain ⟨other, inside, rfl⟩ := List.mem_map.mp member
      rw [Block.lines] at inside
      exact isBelow_indent (isBelow_of_mem_itemLines inside) columns

theorem readItems_lines : ∀ {items : List Block} {fuel : Nat},
    (library reads).readableItems items = true → 2 * weight (itemLines items) + 1 ≤ fuel →
      readItems reads fuel (itemLines items) = some ((library reads).treeItems items)
  | _, 0, _, enough => by omega
  | [], fuel + 1, _, _ => by rw [itemLines, readItems, Library.treeItems]
  | item :: rest, fuel + 1, readable, enough => by
      rw [Library.readableItems, Bool.and_eq_true] at readable
      have present := lines_ne_nil readable.1
      have heavier := weight_dashed present
      rw [itemLines, weight_append] at enough
      rw [itemLines, Library.treeItems]
      exact readItems_item present (itemLines_head rest)
        (readBlock_lines readable.1 (by omega)) (readItems_lines readable.2 (by omega))

end

/-! From texts to lines. -/

theorem isPrintable_indent {line : Line} (printable : ∀ char ∈ line, isPrintable char = true)
    (columns : Nat) : ∀ char ∈ Line.indent columns line, isPrintable char = true := by
  refine List.forall_mem_append.mpr ⟨fun char member => ?_, printable⟩
  rw [List.eq_of_mem_replicate member]
  decide

theorem isPrintable_dashed {lines : List Line}
    (printable : ∀ line ∈ lines, ∀ char ∈ line, isPrintable char = true) :
    ∀ line ∈ dashed lines, ∀ char ∈ line, isPrintable char = true := by
  cases lines with
  | nil => exact printable
  | cons first rest =>
      obtain ⟨firstPrintable, restPrintable⟩ := List.forall_mem_cons.mp printable
      refine List.forall_mem_cons.mpr ⟨?_, fun line member => ?_⟩
      · simpa using ⟨by decide, by decide, firstPrintable⟩
      · obtain ⟨other, inside, rfl⟩ := List.mem_map.mp member
        exact isPrintable_indent (restPrintable other inside) 2

theorem isPrintable_keyed {key : String} {value : Block} (isKey : isKey key = true)
    (printable : ∀ line ∈ value.lines, ∀ char ∈ line, isPrintable char = true) :
    ∀ line ∈ keyed key value value.lines, ∀ char ∈ line, isPrintable char = true := by
  have keyPrintable : ∀ char ∈ key.toList, isPrintable char = true := by
    simp only [Yaml.isKey, isPlain, Bool.and_eq_true] at isKey
    exact List.all_eq_true.mp isKey.1.1.1.1
  have nested (columns : Nat) :
      ∀ line ∈ (key.toList ++ [':']) :: value.lines.map (Line.indent columns),
        ∀ char ∈ line, isPrintable char = true := by
    refine List.forall_mem_cons.mpr ⟨?_, fun line member => ?_⟩
    · exact List.forall_mem_append.mpr ⟨keyPrintable, by simpa using (by decide)⟩
    · obtain ⟨other, inside, rfl⟩ := List.mem_map.mp member
      exact isPrintable_indent (printable other inside) columns
  cases value with
  | scalar text =>
      rw [Block.lines, List.forall_mem_singleton] at printable
      rw [keyed, List.forall_mem_singleton]
      refine List.forall_mem_append.mpr ⟨keyPrintable, ?_⟩
      simpa using ⟨by decide, by decide, printable⟩
  | mapping columns entries => exact nested columns
  | sequence columns items => exact nested columns

mutual

theorem isPrintable_lines : ∀ {block : Block}, (library reads).readable block = true →
    ∀ line ∈ block.lines, ∀ char ∈ line, isPrintable char = true
  | .scalar text, readable => by
      rw [Library.readable, Bool.and_eq_true] at readable
      rw [Block.lines, List.forall_mem_singleton]
      exact List.all_eq_true.mp readable.1
  | .mapping columns entries, readable => by
      rw [Library.readable, Bool.and_eq_true] at readable
      rw [Block.lines]
      exact isPrintable_entryLines readable.2
  | .sequence columns items, readable => by
      rw [Library.readable, Bool.and_eq_true] at readable
      rw [Block.lines]
      exact isPrintable_itemLines readable.2

theorem isPrintable_entryLines : ∀ {entries : List (String × Block)},
    (library reads).readableEntries entries = true →
    ∀ line ∈ entryLines entries, ∀ char ∈ line, isPrintable char = true
  | [], _ => by rw [entryLines]; nofun
  | (key, value) :: rest, readable => by
      simp only [Library.readableEntries, Bool.and_eq_true] at readable
      obtain ⟨⟨⟨isKey, -⟩, readable⟩, later⟩ := readable
      rw [entryLines]
      refine List.forall_mem_append.mpr ⟨?_, isPrintable_entryLines later⟩
      exact isPrintable_keyed isKey (isPrintable_lines readable)

theorem isPrintable_itemLines : ∀ {items : List Block},
    (library reads).readableItems items = true →
    ∀ line ∈ itemLines items, ∀ char ∈ line, isPrintable char = true
  | [], _ => by rw [itemLines]; nofun
  | item :: rest, readable => by
      rw [Library.readableItems, Bool.and_eq_true] at readable
      rw [itemLines]
      refine List.forall_mem_append.mpr ⟨?_, isPrintable_itemLines readable.2⟩
      exact isPrintable_dashed (isPrintable_lines readable.1)

end

/-- No line of a mapping is empty or separates documents. -/
theorem entryLines_shaped {entries : List (String × Block)}
    (readable : (library reads).readableEntries entries = true) :
    ∀ line ∈ entryLines entries, ':' ∈ line ∨ isBelow line = true := by
  induction entries with
  | nil => rw [entryLines]; nofun
  | cons entry rest ih =>
      obtain ⟨key, value⟩ := entry
      simp only [Library.readableEntries, Bool.and_eq_true] at readable
      obtain ⟨⟨⟨-, nests⟩, -⟩, later⟩ := readable
      rw [entryLines]
      refine List.forall_mem_append.mpr ⟨?_, ih later⟩
      cases value with
      | scalar text => simp [keyed]
      | mapping columns inner =>
          refine List.forall_mem_cons.mpr ⟨.inl (by simp), fun line member => .inr ?_⟩
          obtain ⟨other, -, rfl⟩ := List.mem_map.mp member
          rw [isBelow, isIndented_indent (of_decide_eq_true nests), Bool.true_or]
      | sequence columns items =>
          refine List.forall_mem_cons.mpr ⟨.inl (by simp), fun line member => .inr ?_⟩
          obtain ⟨other, inside, rfl⟩ := List.mem_map.mp member
          rw [Block.lines] at inside
          exact isBelow_indent (isBelow_of_mem_itemLines inside) columns

theorem separator_notMem {entries : List (String × Block)}
    (readable : (library reads).readableEntries entries = true) :
    separator ∉ entryLines entries := by
  intro member
  cases entryLines_shaped readable _ member with
  | inl colon => exact absurd colon (by decide)
  | inr below => cases below

theorem filter_entryLines {entries : List (String × Block)}
    (readable : (library reads).readableEntries entries = true) :
    (entryLines entries).filter (!·.isEmpty) = entryLines entries := by
  refine List.filter_eq_self.mpr fun line member => ?_
  cases line with
  | cons first rest => rfl
  | nil =>
      cases entryLines_shaped readable _ member with
      | inl colon => cases colon
      | inr below => cases below

theorem splitOn_joined {lines : List Line} (present : lines ≠ [])
    (printable : ∀ line ∈ lines, ∀ char ∈ line, isPrintable char = true) :
    (joined lines).toList.splitOn '\n' = lines := by
  rw [joined, String.toList_ofList]
  refine List.splitOn_intercalate '\n' (fun line member newline => ?_) present
  exact absurd (printable line member _ newline) (by decide)

theorem readDocument {entries : List (String × Block)} (present : entries ≠ [])
    (readable : (library reads).readableEntries entries = true) :
    readBlock reads (2 * weight (entryLines entries) + 2) (entryLines entries) =
      some (.mapping ((library reads).treeEntries entries)) := by
  have whole : (library reads).readable (.mapping 0 entries) = true := by
    simpa [Library.readable, readable] using present
  have read := readBlock_lines whole (Nat.le_refl _)
  rwa [Block.lines, Library.tree] at read

theorem entryLines_ne_nil {entries : List (String × Block)} (present : entries ≠ []) :
    entryLines entries ≠ [] := by
  obtain ⟨⟨key, value⟩, rest, rfl⟩ := List.exists_cons_of_ne_nil present
  obtain ⟨tail, others, keyed, -⟩ := keyed_eq key value value.lines
  simp [entryLines, keyed]

theorem decode_document {entries : List (String × Block)} (present : entries ≠ [])
    (readable : (library reads).readableEntries entries = true) :
    decode reads (documentText entries) =
      some [.mapping ((library reads).treeEntries entries)] := by
  have lines : ((documentText entries).toList.splitOn '\n').filter (!·.isEmpty) =
      entryLines entries := by
    rw [documentText, splitOn_joined (by simp), List.filter_append, filter_entryLines readable]
    · simp
    · exact List.forall_mem_append.mpr ⟨isPrintable_entryLines readable, by simp⟩
  have filtered : [entryLines entries].filter (!·.isEmpty) = [entryLines entries] := by
    simpa using entryLines_ne_nil present
  simp only [decode, lines, List.splitOn_eq_singleton (separator_notMem readable), filtered,
    List.mapM_cons, List.mapM_nil, readDocument present readable]
  rfl

/-- Reading back the texts of some items gives what each of them is read as. -/
theorem mapM_map_eq_some {α β γ : Type} {write : α → β} {read : β → Option γ} {result : α → γ}
    {items : List α} (each : ∀ item ∈ items, read (write item) = some (result item)) :
    (items.map write).mapM read = some (items.map result) := by
  induction items with
  | nil => rfl
  | cons item rest ih =>
      obtain ⟨first, later⟩ := List.forall_mem_cons.mp each
      rw [List.map_cons, List.mapM_cons, first, ih later]
      rfl

theorem splitOn_separator {documents : List (List (String × Block))}
    (readable : ∀ entries ∈ documents, (library reads).readableEntries entries = true) :
    (documents.flatMap fun entries => entryLines entries ++ [separator]).splitOn separator =
      documents.map entryLines ++ [[]] := by
  induction documents with
  | nil => rfl
  | cons entries rest ih =>
      obtain ⟨first, later⟩ := List.forall_mem_cons.mp readable
      rw [List.flatMap_cons, List.append_assoc, List.singleton_append,
        List.splitOn_append_cons_self_of_not_mem (separator_notMem first), ih later]
      rfl

theorem decode_stream {documents : List (List (String × Block))}
    (readable : ∀ entries ∈ documents,
      entries ≠ [] ∧ (library reads).readableEntries entries = true) :
    decode reads (streamText documents) =
      some (documents.map fun entries => .mapping ((library reads).treeEntries entries)) := by
  have printable : ∀ line ∈ [] :: documents.flatMap (fun entries => entryLines entries ++
      [separator]) ++ [[]], ∀ char ∈ line, isPrintable char = true := by
    rw [List.cons_append]
    refine List.forall_mem_cons.mpr ⟨by nofun, List.forall_mem_append.mpr ⟨?_, by simp⟩⟩
    intro line member
    obtain ⟨entries, inside, member⟩ := List.mem_flatMap.mp member
    cases List.mem_append.mp member with
    | inl here => exact isPrintable_entryLines (readable entries inside).2 line here
    | inr last =>
        cases List.mem_singleton.mp last
        exact List.all_eq_true.mp (by decide)
  have lines : ((streamText documents).toList.splitOn '\n').filter (!·.isEmpty) =
      documents.flatMap fun entries => entryLines entries ++ [separator] := by
    rw [streamText, splitOn_joined (by simp) printable, List.filter_append]
    simp only [List.filter_cons, List.filter_nil, List.isEmpty_nil, Bool.not_true, List.append_nil,
      Bool.false_eq_true, if_false]
    refine List.filter_eq_self.mpr fun line member => ?_
    obtain ⟨entries, inside, member⟩ := List.mem_flatMap.mp member
    cases List.mem_append.mp member with
    | inl here =>
        exact List.filter_eq_self.mp (filter_entryLines (readable entries inside).2) line here
    | inr last =>
        cases List.mem_singleton.mp last
        rfl
  have present : (documents.map entryLines).filter (!·.isEmpty) = documents.map entryLines := by
    refine List.filter_eq_self.mpr fun document member => ?_
    obtain ⟨entries, inside, rfl⟩ := List.mem_map.mp member
    simpa using entryLines_ne_nil (readable entries inside).1
  simp only [decode, lines, splitOn_separator fun entries inside => (readable entries inside).2,
    List.filter_append, present]
  refine (congrArg (List.mapM _) (List.append_nil _)).trans (mapM_map_eq_some fun entries inside => ?_)
  exact readDocument (readable entries inside).1 (readable entries inside).2

/-- The reader is a library of YAML. -/
theorem lawful (noString : ∀ text shown, reads text ≠ some (.string shown))
    (empty : reads "" = some .null) (words : ∀ text, isWord text = true → reads text = none)
    (shaped : ∀ text, (reads text).isSome = true → text = "" ∨ isPlain text = true) :
    (library reads).Lawful := by
  refine ⟨noString, empty, words, fun text known => ?_, fun entries present readable => ?_,
    fun documents readable => ?_⟩
  · cases known with
    | inl plain => exact value_of_plain (.inr plain)
    | inr read => exact value_of_plain (shaped text read)
  · rw [library_decode, decode_document present readable]
  · rw [library_decode, decode_stream readable]

end Written

end Kperf.Yaml.Reader
