import Mathlib.Data.List.DropRight
import Mathlib.Data.List.Infix

/-! Text functions of the Go standard library: `strings.TrimSpace`,
`strings.HasPrefix`, `strings.HasSuffix`, `strings.Contains`, `strings.Cut` and
`json.Valid`. -/

set_option autoImplicit false

namespace Kperf.Text

def isSpace (char : Char) : Bool :=
  let code := char.toNat
  (9 ≤ code && code ≤ 13) || (0x2000 ≤ code && code ≤ 0x200a) ||
    [0x20, 0x85, 0xa0, 0x1680, 0x2028, 0x2029, 0x202f, 0x205f, 0x3000].contains code

theorem isAlphanum_of_named {char : Char} (named : (char.isDigit || char.isLower) = true) :
    char.isAlphanum = true := by
  obtain digit | lower := Bool.or_eq_true_iff.mp named
  · exact Bool.or_eq_true_iff.mpr (.inr digit)
  · exact Bool.or_eq_true_iff.mpr (.inl (Bool.or_eq_true_iff.mpr (.inr lower)))

def trimSpace (text : String) : String :=
  String.ofList
    ((text.toList.dropWhile isSpace).reverse.dropWhile isSpace).reverse

theorem trimSpace_trimSpace (text : String) : trimSpace (trimSpace text) = trimSpace text := by
  simp only [trimSpace, String.toList_ofList]
  -- what is left after trimming both ends starts as the text trimmed on the left does
  have started : List.dropWhile isSpace ((text.toList.dropWhile isSpace).rdropWhile isSpace) =
      (text.toList.dropWhile isSpace).rdropWhile isSpace := by
    rw [List.dropWhile_eq_self_iff]
    intro positive
    have leading := List.rdropWhile_prefix isSpace (l := text.toList.dropWhile isSpace)
    have first := (List.dropWhile_eq_self_iff.mp
      (List.dropWhile_idempotent isSpace text.toList)) (positive.trans_le leading.length_le)
    simpa [leading.getElem] using first
  change String.ofList (List.rdropWhile isSpace (List.dropWhile isSpace
    ((text.toList.dropWhile isSpace).rdropWhile isSpace))) =
      String.ofList ((text.toList.dropWhile isSpace).rdropWhile isSpace)
  rw [started, List.rdropWhile_idempotent]

def hasPrefix (text lead : String) : Bool := lead.toList.isPrefixOf text.toList

def contains (text part : String) : Bool := decide (part.toList <:+: text.toList)

def hasSuffix (text ending : String) : Bool := ending.toList.isSuffixOf text.toList

@[simp] theorem hasSuffix_append (text ending : String) :
    hasSuffix (text ++ ending) ending = true := by
  rw [hasSuffix, List.isSuffixOf_iff_suffix, String.toList_append]
  exact List.suffix_append _ _

/-- `strings.Cut` at a separator of one character. -/
def cut (text : String) (separator : Char) : Option (String × String) :=
  match text.toList.dropWhile (· ≠ separator) with
  | [] => none
  | _ :: after => some (String.ofList (text.toList.takeWhile (· ≠ separator)), String.ofList after)

theorem cut_eq {text front back : String} {separator : Char}
    (spelled : text.toList = front.toList ++ separator :: back.toList)
    (absent : separator ∉ front.toList) : cut text separator = some (front, back) := by
  have kept : ∀ char ∈ front.toList, decide (char ≠ separator) = true := by
    intro char member
    refine decide_eq_true fun same => absent ?_
    rwa [← same]
  rw [cut, spelled, List.dropWhile_append_of_pos kept, List.takeWhile_append_of_pos kept]
  simp

example : cut "zone=a=b" '=' = some ("zone", "a=b") ∧ cut "zone" '=' = none := by decide

theorem utf8ByteSize_ofList {letters : List Char}
    (single : ∀ letter ∈ letters, letter.utf8Size = 1) :
    (String.ofList letters).utf8ByteSize = letters.length := by
  induction letters with
  | nil => rfl
  | cons letter rest ih =>
      obtain ⟨first, later⟩ := List.forall_mem_cons.mp single
      rw [List.length_cons, ← ih later, ← List.singleton_append, String.ofList_append,
        String.utf8ByteSize_append, Nat.add_comm]
      simp [first]

/-! The scanner of `encoding/json`: one step for each character, with a stack
of the objects and arrays it is inside. -/

namespace Json

inductive ParseState where
  | objectKey
  | objectValue
  | arrayValue
  deriving DecidableEq, Repr

inductive Step where
  | beginValue
  | beginValueOrEmpty
  | beginString
  | beginStringOrEmpty
  | endValue
  | endTop
  | inString
  | inStringEscape
  | inStringHex (missing : Nat)
  | negative
  | zero
  | whole
  | point
  | fraction
  | exponent
  | exponentSign
  | exponentDigits
  | word (rest : List Char)
  deriving DecidableEq, Repr

structure Scanner where
  step : Step
  stack : List ParseState
  deriving DecidableEq, Repr

def maxNestingDepth : Nat := 10000

def isBlank (char : Char) : Bool :=
  char == ' ' || char == '\t' || char == '\n' || char == '\r'

def isHex (char : Char) : Bool :=
  char.isDigit || ('a' ≤ char && char ≤ 'f') || ('A' ≤ char && char ≤ 'F')

def Scanner.push (scanner : Scanner) (inside : ParseState) (step : Step) : Option Scanner :=
  if scanner.stack.length < maxNestingDepth then some ⟨step, inside :: scanner.stack⟩ else none

def Scanner.pop (scanner : Scanner) : Scanner :=
  match scanner.stack.tail with
  | [] => ⟨.endTop, []⟩
  | rest => ⟨.endValue, rest⟩

def Scanner.beginValue (scanner : Scanner) (char : Char) : Option Scanner :=
  if isBlank char then some scanner
  else if char == '\x7b' then scanner.push .objectKey .beginStringOrEmpty
  else if char == '[' then scanner.push .arrayValue .beginValueOrEmpty
  else if char == '"' then some { scanner with step := .inString }
  else if char == '-' then some { scanner with step := .negative }
  else if char == '0' then some { scanner with step := .zero }
  else if char == 't' then some { scanner with step := .word ['r', 'u', 'e'] }
  else if char == 'f' then some { scanner with step := .word ['a', 'l', 's', 'e'] }
  else if char == 'n' then some { scanner with step := .word ['u', 'l', 'l'] }
  else if char.isDigit then some { scanner with step := .whole }
  else none

def Scanner.beginString (scanner : Scanner) (char : Char) : Option Scanner :=
  if isBlank char then some scanner
  else if char == '"' then some { scanner with step := .inString }
  else none

def Scanner.endValue (scanner : Scanner) (char : Char) : Option Scanner :=
  match scanner.stack with
  | [] => if isBlank char then some { scanner with step := .endTop } else none
  | inside :: outer =>
      if isBlank char then some { scanner with step := .endValue }
      else match inside with
        | .objectKey =>
            if char == ':' then some ⟨.beginValue, .objectValue :: outer⟩ else none
        | .objectValue =>
            if char == ',' then some ⟨.beginString, .objectKey :: outer⟩
            else if char == '\x7d' then some scanner.pop
            else none
        | .arrayValue =>
            if char == ',' then some { scanner with step := .beginValue }
            else if char == ']' then some scanner.pop
            else none

def Scanner.afterDigits (scanner : Scanner) (char : Char) : Option Scanner :=
  if char == 'e' || char == 'E' then some { scanner with step := .exponent }
  else scanner.endValue char

def Scanner.accept (scanner : Scanner) (char : Char) : Option Scanner :=
  match scanner.step with
  | .beginValue => scanner.beginValue char
  | .beginValueOrEmpty => if char == ']' then scanner.endValue char else scanner.beginValue char
  | .beginString => scanner.beginString char
  | .beginStringOrEmpty =>
      if char == '\x7d' then some scanner.pop else scanner.beginString char
  | .endValue => scanner.endValue char
  | .endTop => if isBlank char then some scanner else none
  | .inString =>
      if char == '"' then some { scanner with step := .endValue }
      else if char == '\\' then some { scanner with step := .inStringEscape }
      else if char.toNat < 0x20 then none
      else some scanner
  | .inStringEscape =>
      if char == 'u' then some { scanner with step := .inStringHex 3 }
      else if ['b', 'f', 'n', 'r', 't', '\\', '/', '"'].contains char then
        some { scanner with step := .inString }
      else none
  | .inStringHex missing =>
      if isHex char then
        match missing with
        | 0 => some { scanner with step := .inString }
        | fewer + 1 => some { scanner with step := .inStringHex fewer }
      else none
  | .negative =>
      if char == '0' then some { scanner with step := .zero }
      else if char.isDigit then some { scanner with step := .whole }
      else none
  | .whole =>
      if char.isDigit then some scanner
      else if char == '.' then some { scanner with step := .point }
      else scanner.afterDigits char
  | .zero =>
      if char == '.' then some { scanner with step := .point } else scanner.afterDigits char
  | .point => if char.isDigit then some { scanner with step := .fraction } else none
  | .fraction => if char.isDigit then some scanner else scanner.afterDigits char
  | .exponent =>
      if char == '+' || char == '-' then some { scanner with step := .exponentSign }
      else if char.isDigit then some { scanner with step := .exponentDigits }
      else none
  | .exponentSign =>
      if char.isDigit then some { scanner with step := .exponentDigits } else none
  | .exponentDigits => if char.isDigit then some scanner else scanner.endValue char
  | .word [] => scanner.endValue char
  | .word (expected :: rest) =>
      if char == expected then
        some { scanner with step := if rest.isEmpty then .endValue else .word rest }
      else none

def Scanner.eof (scanner : Scanner) : Bool :=
  match scanner.step with
  | .endTop => true
  | _ => match scanner.endValue ' ' with
    | some final =>
        final.step == .endTop && [Step.zero, .whole, .fraction, .exponentDigits, .endValue].contains
          scanner.step
    | none => false

/-- `json.Valid`. -/
def valid (text : String) : Bool :=
  match text.toList.foldlM Scanner.accept ⟨.beginValue, []⟩ with
  | some scanner => scanner.eof
  | none => false

example : valid "\x7b\"spec\": [1, -2.5e3, \"a\\u00e9\", [[true], \x7b\x7d]]\x7d" = true := by
  decide

example : valid "[1, 2" = false := by decide

end Json

end Kperf.Text
