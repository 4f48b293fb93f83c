import Kperf.Library.Map

/-! Label values and label selectors of Kubernetes. The server that answers a query is a
parameter: what is known of it are the selectors of the forms below over label values,
not what it makes of any other text that stands in their place. -/

set_option autoImplicit false

namespace Kperf.LabelSelector

def isLabelChar (c : Char) : Bool := c.isAlphanum || c == '-' || c == '_' || c == '.'

/-- A label value that is not empty. -/
def isLabelValue (text : String) : Bool :=
  decide (text.length ≤ 63) && text.toList.all isLabelChar &&
    text.toList.head?.any Char.isAlphanum && text.toList.getLast?.any Char.isAlphanum

structure LabelValue where
  text : String
  valid : isLabelValue text = true
  deriving DecidableEq

theorem LabelValue.comma_notMem (value : LabelValue) : ',' ∉ value.text.toList := by
  intro member
  have valid := value.valid
  simp only [isLabelValue, Bool.and_eq_true, List.all_eq_true] at valid
  exact absurd (valid.1.1.2 ',' member) (by decide)

/-- The labels have a value under a key. -/
def has (labels : StringMap String) (key value : String) : Bool :=
  decide (labels.lookup key = some value)

def equalsText (app key value : String) : String := "app=" ++ app ++ "," ++ key ++ "=" ++ value

/-- No value at all asks for the application alone. -/
def withinText (app key : String) (values : List String) : String :=
  if values = [] then "app=" ++ app
  else "app=" ++ app ++ ", " ++ key ++ " in (" ++ String.intercalate "," values ++ ")"

/-- A server that is asked for one value of a key. -/
structure EqualsServer (app key : String) where
  selects : String → StringMap String → Bool
  equals : ∀ (value : LabelValue) (labels : StringMap String),
    selects (equalsText app key value.text) labels =
      (has labels "app" app && has labels key value.text)

/-- A server that is asked for any of some values of a key. -/
structure WithinServer (app key : String) where
  selects : String → StringMap String → Bool
  within : ∀ (values : List LabelValue) (labels : StringMap String),
    selects (withinText app key (values.map LabelValue.text)) labels =
      (has labels "app" app &&
        (values.isEmpty || values.any fun value => has labels key value.text))

/-! Servers that read the text, and take one of another form for no selector. -/

theorem equalsText_inj {app key first second : String} :
    equalsText app key first = equalsText app key second ↔ first = second := by
  simp [equalsText]

def EqualsServer.reading (app key : String) : EqualsServer app key where
  selects := fun text labels =>
    has labels "app" app && (labels.lookup key).any fun value => text == equalsText app key value
  equals := by
    intro value labels
    congr 1
    cases found : labels.lookup key with
    | none => simp [has, found]
    | some other =>
        rw [Bool.eq_iff_iff]
        simp only [Option.any_some, beq_iff_eq, equalsText_inj, has, found, Option.some.injEq,
          decide_eq_true_eq]
        exact eq_comm

/-- The values that a text asks for. -/
def writtenValues (app key text : String) : Option (List String) :=
  if text = "app=" ++ app then some []
  else
    (text.toList.dropPrefix? ("app=" ++ app ++ ", " ++ key ++ " in (").toList).map fun rest =>
      (rest.dropLast.splitOn ',').map String.ofList

theorem writtenValues_withinText (app key : String) (values : List LabelValue) :
    writtenValues app key (withinText app key (values.map LabelValue.text)) =
      some (values.map LabelValue.text) := by
  cases values with
  | nil => simp [withinText, writtenValues]
  | cons value rest =>
      let texts := (value :: rest).map LabelValue.text
      have split : ([','].intercalate (texts.map String.toList)).splitOn ',' =
          texts.map String.toList := by
        refine List.splitOn_intercalate ',' ?_ (by simp [texts])
        intro letters member
        obtain ⟨text, listed, rfl⟩ := List.mem_map.mp member
        obtain ⟨value, -, rfl⟩ := List.mem_map.mp listed
        exact value.comma_notMem
      have longer : withinText app key texts ≠ "app=" ++ app := by
        intro same
        have letters := congrArg (fun text => text.toList.length) same
        simp [withinText, texts] at letters
      have dropped : (withinText app key texts).toList.dropPrefix?
          ("app=" ++ app ++ ", " ++ key ++ " in (").toList =
          some ([','].intercalate (texts.map String.toList) ++ [')']) := by
        have shape : (withinText app key texts).toList =
            ("app=" ++ app ++ ", " ++ key ++ " in (").toList ++
              ([','].intercalate (texts.map String.toList) ++ [')']) := by
          simp [withinText, texts, String.toList_intercalate]
        rw [shape]
        exact List.dropPrefix?_append_of_beq _ BEq.rfl
      rw [writtenValues, if_neg longer, dropped, Option.map_some, List.dropLast_concat, split]
      simp [texts]

def WithinServer.reading (app key : String) : WithinServer app key where
  selects := fun text labels =>
    has labels "app" app && (writtenValues app key text).any fun values =>
      values.isEmpty || values.any fun value => has labels key value
  within := by
    intro values labels
    rw [writtenValues_withinText]
    simp [List.any_map, Function.comp_def]

end Kperf.LabelSelector
