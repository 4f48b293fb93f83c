import Kperf.Library.Map
import Kperf.Library.Outcome
import Kperf.Library.Text

/-! The maps that the commands read from `key=value` arguments. A key that is
given twice has its last value. -/

set_option autoImplicit false

namespace Kperf.Cmd.Utils

open Outcome

/-- Reads each argument in turn; `parse` reads what follows the equals sign. -/
def readPairs {V : Type} (expected : String) (parse : String → V) (strs : List String) :
    Outcome (StringMap V) :=
  strs.foldlM (fun res str =>
    match Text.cut str '=' with
    | none => fail (expected ++ str)
    | some (key, rest) => .ok (res.insert key (parse rest))) ∅

def keyValuesMap (strs : List String) : Outcome (StringMap (List String)) :=
  readPairs "expected key=value[,value] format, but got "
    (fun values => (values.toList.splitOn ',').map String.ofList) strs

def keyValueMap (strs : List String) : Outcome (StringMap String) :=
  readPairs "expected key=value format, but got " id strs

end Kperf.Cmd.Utils
