import Kperf.Library.Text

/-! Addresses as the package `net` of the Go standard library reads them:
`net.SplitHostPort`, `net.ParseIP` and `IP.IsLoopback`. -/

set_option autoImplicit false

namespace Kperf.NetAddress

/-- What stands before and after the last colon. -/
def lastColon (letters : List Char) : Option (List Char × List Char) :=
  match letters.reverse.dropWhile (· ≠ ':') with
  | [] => none
  | _ :: front => some (front.reverse, (letters.reverse.takeWhile (· ≠ ':')).reverse)

def addrErr {Value : Type} (addr why : String) : Except String Value :=
  .error (if addr = "" then why else "address " ++ addr ++ ": " ++ why)

def missingPort : String := "missing port in address"

def tooManyColons : String := "too many colons in address"

/-- The host and the port, unless a bracket stands where none can. -/
def checkBrackets (hostport : String) (opened closed host port : List Char) :
    Except String (String × String) :=
  if '[' ∈ opened then addrErr hostport "unexpected '[' in address"
  else if ']' ∈ closed then addrErr hostport "unexpected ']' in address"
  else .ok (String.ofList host, String.ofList port)

def splitHostPort (hostport : String) : Except String (String × String) :=
  match lastColon hostport.toList with
  | none => addrErr hostport missingPort
  | some (front, port) =>
      match hostport.toList with
      | '[' :: inner =>
          -- the first bracket that closes has to stand right before the last colon
          match inner.dropWhile (· ≠ ']') with
          | [] => addrErr hostport "missing ']' in address"
          | _ :: after =>
              if after = [] then addrErr hostport missingPort
              else if after = ':' :: port then
                checkBrackets hostport inner after (inner.takeWhile (· ≠ ']')) port
              else if after.head? = some ':' then addrErr hostport tooManyColons
              else addrErr hostport missingPort
      | _ =>
          if ':' ∈ front then addrErr hostport tooManyColons
          else checkBrackets hostport hostport.toList hostport.toList front port

def decimalValue (digits : List Char) : Nat :=
  digits.foldl (fun value digit => value * 10 + (digit.toNat - '0'.toNat)) 0

/-- A field of an IPv4 address; a zero does not lead. -/
def parseField (digits : List Char) : Option Nat :=
  if digits = [] ∨ digits.any (fun char => !char.isDigit) then none
  else if 1 < digits.length ∧ digits.head? = some '0' then none
  else if 255 < decimalValue digits then none
  else some (decimalValue digits)

def parseIPv4Fields (letters : List Char) : Option (Nat × Nat × Nat × Nat) :=
  match (letters.splitOn '.').mapM parseField with
  | some [first, second, third, fourth] => some (first, second, third, fourth)
  | _ => none

def isHexDigit (char : Char) : Bool :=
  char.isDigit || ('a' ≤ char && char ≤ 'f') || ('A' ≤ char && char ≤ 'F')

def hexDigit (char : Char) : Nat :=
  if char.isDigit then char.toNat - '0'.toNat
  else if char.isLower then char.toNat - 'a'.toNat + 10
  else char.toNat - 'A'.toNat + 10

def hexValue (digits : List Char) : Nat :=
  digits.foldl (fun value digit => value * 16 + hexDigit digit) 0

/-- The loop of `parseIPv6` over the 16-bit groups, at most as many as there is room for.
`ellipsis` is the number of groups in front of a double colon. -/
def parseGroups : Nat → List Nat → Option Nat → List Char →
    Option (List Nat × Option Nat × List Char)
  | 0, groups, ellipsis, letters => some (groups, ellipsis, letters)
  | room + 1, groups, ellipsis, letters =>
      let digits := letters.takeWhile isHexDigit
      let saved := groups ++ [hexValue digits]
      if digits = [] ∨ 4 < digits.length then none
      else match letters.dropWhile isHexDigit with
        | '.' :: _ =>
            if ellipsis = none ∧ groups.length ≠ 6 ∨ room = 0 then none
            else (parseIPv4Fields letters).map fun (first, second, third, fourth) =>
              (groups ++ [first * 256 + second, third * 256 + fourth], ellipsis, [])
        | [] => some (saved, ellipsis, [])
        | [':'] => none
        | ':' :: ':' :: rest =>
            if ellipsis.isSome then none
            else if rest = [] then some (saved, some saved.length, [])
            else parseGroups room saved (some saved.length) rest
        | ':' :: rest => parseGroups room saved ellipsis rest
        | _ => none

/-- The eight groups of an IPv6 address without a zone. -/
def parseIPv6 (letters : List Char) : Option (List Nat) := do
  let (groups, ellipsis, rest) ←
    match letters with
    | [':', ':'] => some ([], some 0, [])
    | ':' :: ':' :: rest => parseGroups 8 [] (some 0) rest
    | _ => parseGroups 8 [] none letters
  if rest ≠ [] then none
  else if groups.length < 8 then
    ellipsis.map fun at_ =>
      groups.take at_ ++ List.replicate (8 - groups.length) 0 ++ groups.drop at_
  else if ellipsis.isSome then none
  else some groups

/-- An address in its form of 16 bytes. -/
def parseIP (text : String) : Option (List Nat) :=
  match text.toList.find? fun char => char = '.' ∨ char = ':' ∨ char = '%' with
  | some '.' => (parseIPv4Fields text.toList).map fun (first, second, third, fourth) =>
      [0, 0, 0, 0, 0, 0xffff, first * 256 + second, third * 256 + fourth]
  | some ':' => if '%' ∈ text.toList then none else parseIPv6 text.toList
  | _ => none

def isLoopback : List Nat → Bool
  | [0, 0, 0, 0, 0, 0xffff, high, _] => high / 256 == 127
  | groups => groups == [0, 0, 0, 0, 0, 0, 0, 1]

example : splitHostPort "[::1]:8080" = .ok ("::1", "8080") := by decide

example : (parseIP "::ffff:127.0.0.1").map isLoopback = some true := by decide

end Kperf.NetAddress
