import Mathlib.Data.List.Sort

/-! Values of `encoding/json` and the indented text its encoder writes. -/

set_option autoImplicit false

namespace Kperf

inductive JsonValue where
  | null
  | number (text : String)
  | string (text : String)
  | array (items : List JsonValue)
  | object (fields : List (String × JsonValue))

namespace JsonValue

def hexDigit (value : Nat) : Char := Nat.digitChar (value % 16)

def escapeChar (char : Char) : List Char :=
  if char = '"' then ['\\', '"']
  else if char = '\\' then ['\\', '\\']
  else if char = '\n' then ['\\', 'n']
  else if char = '\r' then ['\\', 'r']
  else if char = '\t' then ['\\', 't']
  else if char.toNat = 8 then ['\\', 'b']
  else if char.toNat = 12 then ['\\', 'f']
  else if char.toNat < 32 ∨ char = '<' ∨ char = '>' ∨ char = '&' ∨ char.toNat = 0x2028 ∨
      char.toNat = 0x2029 then
    ['\\', 'u', hexDigit (char.toNat / 4096), hexDigit (char.toNat / 256),
      hexDigit (char.toNat / 16), hexDigit char.toNat]
  else [char]

def quote (text : String) : String :=
  "\"" ++ String.ofList (text.toList.flatMap escapeChar) ++ "\""

def newline (depth : Nat) : String := String.ofList ('\n' :: List.replicate (2 * depth) ' ')

mutual

def render (depth : Nat) : JsonValue → String
  | .null => "null"
  | .number text => text
  | .string text => quote text
  | .array [] => "[]"
  | .array (item :: rest) =>
      "[" ++ newline (depth + 1) ++ render (depth + 1) item ++ renderItems depth rest ++ "]"
  | .object [] => "\x7b\x7d"
  | .object ((name, value) :: rest) =>
      "\x7b" ++ newline (depth + 1) ++ quote name ++ ": " ++ render (depth + 1) value ++
        renderFields depth rest ++ "\x7d"

def renderItems (depth : Nat) : List JsonValue → String
  | [] => newline depth
  | item :: rest =>
      "," ++ newline (depth + 1) ++ render (depth + 1) item ++ renderItems depth rest

def renderFields (depth : Nat) : List (String × JsonValue) → String
  | [] => newline depth
  | (name, value) :: rest =>
      "," ++ newline (depth + 1) ++ quote name ++ ": " ++ render (depth + 1) value ++
        renderFields depth rest

end

/-- What an encoder with `SetIndent("", "  ")` writes. -/
def encode (value : JsonValue) : List UInt8 := (render 0 value ++ "\n").toUTF8.toList

def omitEmpty {α : Type} (name : String) (values : List α) (value : JsonValue) :
    List (String × JsonValue) :=
  if values.isEmpty then [] else [(name, value)]

def ofEntries {V : Type} (write : V → JsonValue) (entries : List (Sigma fun _ : String => V)) :
    JsonValue :=
  .object ((entries.map fun entry => (entry.1, write entry.2)).insertionSort
    fun left right => left.1 ≤ right.1)

end JsonValue

end Kperf
