import Kperf.Helmcli.Release
import Kperf.Library.Text
import Kperf.Library.YamlBlock
import Mathlib.Algebra.Order.Ring.Nat
import Mathlib.Data.List.Sort

/-! The values that a chart is rendered with. `copyValues` takes them through JSON, so
that every number is a `float64` afterwards. Helm's `--set` parser, the functions and the
printing of its templates are parameters. -/

set_option autoImplicit false

namespace Kperf.Helmcli

/-- The values that are no maps. The numbers of a chart are integers, as the `--set`
parser reads them or held by a `float64`. -/
inductive Leaf where
  | null
  | bool (value : Bool)
  | int (number : Int)
  | float (number : Int)
  | text (text : String)
  | list (items : List Leaf)

/-- The integer that the nearest `float64` holds, the even one of two. -/
def roundFloat64 (number : Int) : Int :=
  let size := number.natAbs
  let unit := 2 ^ (size.log2 - 52)
  let rounded :=
    if unit < 2 * (size % unit) ∨ (2 * (size % unit) = unit ∧ size / unit % 2 = 1) then
      size / unit + 1
    else size / unit
  number.sign * (rounded * unit : Nat)

example : roundFloat64 (2 ^ 53 + 1) = 2 ^ 53 ∧ roundFloat64 (2 ^ 53 + 3) = 2 ^ 53 + 4 ∧
    roundFloat64 (-7) = -7 := by decide +kernel

mutual

/-- A value after `json.Marshal` and `json.Unmarshal`. -/
def Leaf.recoded : Leaf → Leaf
  | .int number => .float (roundFloat64 number)
  | .list items => .list (recodedItems items)
  | .null => .null
  | .bool value => .bool value
  | .float number => .float number
  | .text shown => .text shown

def Leaf.recodedItems : List Leaf → List Leaf
  | [] => []
  | item :: rest => item.recoded :: recodedItems rest

end

namespace Values

def copyValues (src : Values Leaf) : Values Leaf where
  entries := ValueTree.mapEntries Leaf.recoded src.entries
  wellFormed := by
    have recoded := src.wellFormed.mapLeaves Leaf.recoded
    rwa [ValueTree.mapLeaves] at recoded

theorem get_copyValues (src : Values Leaf) (path : List String) :
    src.copyValues.get path = (src.get path).map (ValueTree.mapLeaves Leaf.recoded) := by
  rw [get, get, ← ValueTree.get_mapLeaves]
  rw [tree, tree, ValueTree.mapLeaves]
  rfl

theorem get_copyValues_leaf {src : Values Leaf} {path : List String} {leaf : Leaf}
    (held : src.get path = some (.leaf leaf)) :
    src.copyValues.get path = some (.leaf leaf.recoded) := by
  rw [get_copyValues, held, Option.map_some, ValueTree.mapLeaves]

/-- `.Values.key` of a template. -/
def field (values : Values Leaf) (key : String) : ValueTree String Leaf :=
  (values.get [key]).getD (.leaf .null)

/-- One key is set to a value that is no map. -/
structure Assigned (before : Values Leaf) (key : String) (leaf : Leaf) (after : Values Leaf) :
    Prop where
  here : after.get [key] = some (.leaf leaf)
  others : ∀ other path, other ≠ key → after.get (other :: path) = before.get (other :: path)

/-- A key that is not written keeps what it had. -/
theorem get_applyValues_absent {target source : Values Leaf} {key : String}
    (absent : source.get [key] = none) (path : List String) :
    (target.applyValues source).get (key :: path) = target.get (key :: path) := by
  have missing : source.entries.dlookup key = none := by
    cases held : source.entries.dlookup key with
    | none => rfl
    | some inner => simp [get, tree, held] at absent
  have nothing (rest : List String) : source.get (key :: rest) = none := by
    rw [get, tree, ValueTree.get_map_cons, missing, Option.bind_none]
  refine get_applyValues_none (ValueTree.Same.refl _) (nothing path) fun front present begins _ held => ?_
  cases front with
  | nil => exact absurd rfl present
  | cons first rest =>
      obtain ⟨rfl, -⟩ := List.cons_prefix_cons.mp begins
      rw [nothing rest] at held
      cases held

end Values

/-- `template.IsTrue`. -/
def isTrue : ValueTree String Leaf → Bool
  | .map entries => !entries.isEmpty
  | .leaf .null => false
  | .leaf (.bool value) => value
  | .leaf (.int number) => number ≠ 0
  | .leaf (.float number) => number ≠ 0
  | .leaf (.text text) => text ≠ ""
  | .leaf (.list items) => !items.isEmpty

/-- What `range` visits of a map: its entries in the order of their keys. -/
def rangeMap : ValueTree String Leaf → List (String × ValueTree String Leaf)
  | .map entries =>
      (entries.map fun entry => (entry.1, entry.2)).insertionSort fun first second =>
        first.1 ≤ second.1
  | .leaf _ => []

theorem mem_rangeMap {values : Values Leaf} {field key : String} {tree : ValueTree String Leaf} :
    (key, tree) ∈ rangeMap (values.field field) ↔ values.get [field, key] = some tree := by
  have below : values.get [field, key] = (values.get [field]).bind fun held => held.get [key] := by
    simp only [Values.get, Values.tree, ValueTree.get_map_cons]
    cases values.entries.dlookup field <;> simp
  rw [Values.field, below]
  cases held : values.get [field] with
  | none => simp [rangeMap]
  | some inner =>
      cases inner with
      | leaf value => simp [rangeMap]
      | map entries =>
          have distinct := (values.wellFormed.get held).distinct
          rw [Option.getD_some, rangeMap, (List.perm_insertionSort _ _).mem_iff, Option.bind_some,
            ValueTree.get_map_cons]
          simp only [ValueTree.get_nil, Option.bind_fun_some]
          constructor
          · intro member
            obtain ⟨entry, inside, same⟩ := List.mem_map.mp member
            obtain ⟨rfl, rfl⟩ := Prod.mk.inj same
            exact List.mem_dlookup distinct inside
          · intro found
            exact List.mem_map.mpr ⟨⟨key, tree⟩, List.of_mem_dlookup found, rfl⟩

def rangeList : ValueTree String Leaf → List Leaf
  | .leaf (.list items) => items
  | _ => []

structure HelmLibrary where
  /-- `strvals.ParseInto`. -/
  parseInto : String → Values Leaf → Option (Values Leaf)
  /-- The text that a template shows for a value. -/
  shown : ValueTree String Leaf → String
  /-- The template function `int`. -/
  int : ValueTree String Leaf → Int
  /-- The template function `untilStep`. -/
  untilStep : Int → Int → Int → List Int
  /-- Helm deploys releases of this name. -/
  accepts : String → Bool

/-- Helm's alphabet for the names of releases. -/
def isReleaseName (text : String) : Bool :=
  (text.toList.head?.any fun first => first.isDigit || first.isLower) &&
    text.toList.all fun char => char.isDigit || char.isLower || char = '-' || char = '.'

/-- What Helm takes out of the texts that its templates show. -/
def noValue : String := "<no value>"

/-- What the `--set` parser can read a text as. -/
inductive Leaf.ReadFrom (text : String) : Leaf → Prop where
  | text : ReadFrom text (.text text)
  | null : ReadFrom text .null
  | bool {value : Bool} : ReadFrom text (.bool value)
  | int {number : Int} : 0 ≤ number → number < 2 ^ 63 → ReadFrom text (.int number)

/-- What is documented of Helm. `key=text` sets the key, to the text unless it reads as
`null`, a boolean or a 64-bit integer. A text is shown as it is, and what is no text as
something that YAML does not read as a string: numbers as those numbers. -/
structure HelmLibrary.Lawful (helm : HelmLibrary) (yaml : Yaml.Library) : Prop where
  assigns : ∀ key ∈ ["name", "replicas"], ∀ text, isReleaseName text = true → ∀ values,
    ∃ leaf next, helm.parseInto (key ++ "=" ++ text) values = some next ∧
      values.Assigned key leaf next ∧ leaf.ReadFrom text
  integers : ∀ key ∈ ["name", "replicas"], ∀ number : Int, 0 ≤ number → number < 2 ^ 63 →
    ∀ values, ∃ next, helm.parseInto (key ++ "=" ++ toString number) values = some next ∧
      values.Assigned key (.int number) next
  text : ∀ text, Text.contains text noValue = false → helm.shown (.leaf (.text text)) = text
  null : (yaml.reads (helm.shown (.leaf .null))).isSome = true
  bool : ∀ value, (yaml.reads (helm.shown (.leaf (.bool value)))).isSome = true
  number : ∀ number, 0 ≤ number → number < 2 ^ 63 →
    yaml.reads (helm.shown (.leaf (.float (roundFloat64 number)))) =
      some (.number (roundFloat64 number))
  untilStep : ∀ stop, helm.untilStep 0 stop 1 = (List.range stop.toNat).map Int.ofNat
  accepts : ∀ name, helm.accepts name = true → isReleaseName name = true

section Shown

variable {helm : HelmLibrary} {yaml : Yaml.Library}

/-- Where YAML makes a string of what is shown, it is the text that was set. -/
theorem HelmLibrary.Lawful.shown_text (lawful : helm.Lawful yaml) (yamlLawful : yaml.Lawful)
    {leaf : Leaf} {text string : String} (read : leaf.ReadFrom text)
    (plain : Yaml.isPlain text = true) (kept : Text.contains text noValue = false)
    (shown : (yaml.tree (.scalar (helm.shown (.leaf leaf.recoded)))).text = some string) :
    string = text := by
  have noString {other : Leaf} (known : (yaml.reads (helm.shown (.leaf other))).isSome = true) :
      (yaml.tree (.scalar (helm.shown (.leaf other)))).text ≠ some string := by
    intro shown
    rw [((Yaml.Library.text_tree_scalar yamlLawful (.inr known)).mp shown).1] at known
    cases known
  cases read with
  | text =>
      rw [Leaf.recoded, lawful.text text kept] at shown
      exact ((Yaml.Library.text_tree_scalar yamlLawful (.inl plain)).mp shown).2.symm
  | null =>
      rw [Leaf.recoded] at shown
      exact absurd shown (noString lawful.null)
  | bool =>
      rw [Leaf.recoded] at shown
      exact absurd shown (noString (lawful.bool _))
  | int low high =>
      rw [Leaf.recoded] at shown
      exact absurd shown (noString (by rw [lawful.number _ low high]; rfl))

end Shown

/-! Rounding. -/

theorem roundFloat64_eq {number : Int} (small : number.natAbs < 2 ^ 53) :
    roundFloat64 number = number := by
  have exponent : number.natAbs.log2 - 52 = 0 := by
    by_cases zero : number.natAbs = 0
    · rw [zero]
      rfl
    · have bound := (Nat.log2_lt zero).mpr small
      omega
  simp only [roundFloat64, exponent, pow_zero, Nat.mod_one, Nat.div_one, Nat.mul_zero, mul_one]
  rw [if_neg (by omega), Int.sign_mul_natAbs]

/-- A number that a `float64` need not hold is not rounded to one that it holds anyway. -/
theorem le_roundFloat64 {number : Int} (large : 2 ^ 53 ≤ number) : 2 ^ 53 ≤ roundFloat64 number := by
  obtain ⟨size, rfl⟩ := Int.eq_ofNat_of_zero_le (by omega : 0 ≤ number)
  have present : size ≠ 0 := by omega
  have exponent : 53 ≤ size.log2 := (Nat.le_log2 present).mpr (by omega)
  have split : 2 ^ 52 * 2 ^ (size.log2 - 52) = 2 ^ size.log2 := by
    rw [← pow_add]
    congr 1
    omega
  have quotient : 2 ^ 52 ≤ size / 2 ^ (size.log2 - 52) := by
    rw [Nat.le_div_iff_mul_le (Nat.two_pow_pos _), split]
    exact Nat.log2_self_le present
  have unit : 2 ^ 1 ≤ 2 ^ (size.log2 - 52) := Nat.pow_le_pow_right (by decide) (by omega)
  have sign : (size : Int).sign = 1 := Int.sign_eq_one_of_pos (by omega)
  simp only [roundFloat64, Int.natAbs_natCast, sign, one_mul]
  generalize 2 ^ (size.log2 - 52) = step at quotient unit
  have floor : 2 ^ 52 * 2 ^ 1 ≤ size / step * step := Nat.mul_le_mul quotient unit
  have above : size / step * step ≤ (size / step + 1) * step := Nat.mul_le_mul_right _ (by omega)
  split_ifs <;> omega

theorem roundFloat64_nonneg {number : Int} (nonneg : 0 ≤ number) : 0 ≤ roundFloat64 number :=
  Int.mul_nonneg (Int.sign_nonneg_iff.mpr nonneg) (Int.natCast_nonneg _)

/-! Names of releases. -/

section Names

variable {name : String}

theorem isNameChar_of_isReleaseName (named : isReleaseName name = true) :
    ∀ char ∈ name.toList, Yaml.isNameChar char = true := by
  intro char member
  simp only [isReleaseName, Bool.and_eq_true, List.all_eq_true] at named
  have allowed := named.2 char member
  rw [Bool.or_eq_true, Bool.or_eq_true, decide_eq_true_eq, decide_eq_true_eq] at allowed
  rcases allowed with (shown | rfl) | rfl
  · simp [Yaml.isNameChar, Text.isAlphanum_of_named shown]
  · rfl
  · rfl

theorem isPlain_of_isReleaseName (named : isReleaseName name = true) :
    Yaml.isPlain name = true := by
  refine Yaml.isPlain_of_isNameChar (isNameChar_of_isReleaseName named) ?_
  simp only [isReleaseName, Bool.and_eq_true] at named
  cases first : name.toList.head? with
  | none => rw [first] at named; cases named.1
  | some char =>
      rw [first, Option.any_some] at named
      exact Text.isAlphanum_of_named named.1

/-- Names and labels are shown as they are. -/
theorem contains_noValue (names : ∀ char ∈ name.toList, Yaml.isNameChar char = true) :
    Text.contains name noValue = false := by
  refine decide_eq_false fun inside => ?_
  have member : '<' ∈ name.toList := inside.subset (by decide)
  exact absurd (names '<' member) (by decide)

end Names

end Kperf.Helmcli
