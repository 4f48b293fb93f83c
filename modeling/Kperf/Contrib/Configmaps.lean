import Kperf.Library.Decimal
import Kperf.Library.Map

/-! `runkperf data configmap`: adding a set of config maps in groups and listing
sets by name. The namespace is the list of its config maps. Creations of one
group run in any order; what the server and the random source answer is part of
the input. -/

set_option autoImplicit false

namespace Kperf.Contrib.Configmaps

open Outcome

def appLebel : String := "runkperf"

structure ConfigMap where
  name : String
  labels : StringMap String
  data : StringMap String

def checkConfigmapParams (size groupSize total : Int) : Outcome Unit :=
  if size ≤ 0 then fail "size must be greater than 0"
  else if groupSize ≤ 0 then fail "group-size must be greater than 0"
  else if total ≤ 0 then fail "total amount must be greater than 0"
  else if total < groupSize then fail "group-size must be less than or equal to total"
  else .ok ()

def letterRunes : List Char := "abcdefghijklmnopqrstuvwxyzABCDEFGHIJKLMNOPQRSTUVWXYZ".toList

/-- `random` gives the draws of one call, each below the number of letters, or
the error of the random source. -/
def randString (random : Nat → Except String (Fin letterRunes.length)) (n : Int) :
    Outcome String :=
  if n ≤ 0 then fail "length must be positive"
  else do
    let letters ← (List.range n.toNat).mapM fun position =>
      match random position with
      | .ok drawn => (.ok (letterRunes.get drawn) : Outcome Char)
      | .error message => fail ("error generating random number: " ++ message)
    return String.ofList letters

/-- The other side of the calls, by the index of the config map. -/
structure Server where
  random : Int → Nat → Except String (Fin letterRunes.length)
  createFails : Int → Option String
  /-- The order in which the goroutines of a group reach the server. -/
  schedule : List Int → List Int
  schedule_perm : ∀ indices, (schedule indices).Perm indices

def configmapName (cmName : String) (j : Int) : String :=
  appLebel ++ "-cm-" ++ cmName ++ "-" ++ toString j

def newConfigmap (cmName : String) (ownerID j : Int) (data : String) : ConfigMap where
  name := configmapName cmName j
  labels := ((AList.singleton "cmName" cmName).insert "app" appLebel).insert "ownerID"
    (toString ownerID)
  data := AList.singleton "data" data

def createConfigmap (server : Server) (cmName : String) (size ownerID j : Int)
    (stored : List ConfigMap) : Outcome (List ConfigMap) := do
  let name := configmapName cmName j
  let data ← wrap ("failed to generate random string for configmap " ++ name ++ ": ")
    (randString (server.random j) size)
  wrap ("failed to create configmap " ++ name ++ ": ") <|
    match server.createFails j with
    | some message => fail message
    | none =>
        if name ∈ stored.map ConfigMap.name then
          fail ("configmaps " ++ Format.quote name ++ " already exists")
        else .ok (stored ++ [newConfigmap cmName ownerID j data])

/-- One group: every creation is tried, and the first error is returned. -/
def createGroup (server : Server) (cmName : String) (size ownerID : Int) :
    List Int → List ConfigMap → List ConfigMap × Outcome Unit
  | [], stored => (stored, .ok ())
  | j :: rest, stored =>
      match createConfigmap server cmName size ownerID j stored with
      | .ok grown => createGroup server cmName size ownerID rest grown
      | .error fault => ((createGroup server cmName size ownerID rest stored).1, .error fault)

/-- The indices from `first` up to, not including, `stop`. -/
def indices (first stop : Int) : List Int :=
  (List.range (stop - first).toNat).map fun (offset : Nat) => first + offset

/-- The loop over the groups, from index `i` on; it has no result when the fuel
does not suffice. -/
def createLoop (server : Server) (cmName : String) (size groupSize total : Int) :
    Nat → Int → List ConfigMap → Option (List ConfigMap × Outcome Unit)
  | 0, _, _ => none
  | fuel + 1, i, stored =>
      if i < total then
        match createGroup server cmName size i
            (server.schedule (indices i (min (addInt64 i groupSize) total))) stored with
        | (grown, .error fault) => some (grown, .error fault)
        | (grown, .ok ()) =>
            createLoop server cmName size groupSize total fuel (addInt64 i groupSize) grown
      else some (stored, .ok ())

def createConfigmaps (server : Server) (cmName : String) (size groupSize total : Int) (fuel : Nat)
    (stored : List ConfigMap) : Option (List ConfigMap × Outcome Unit) :=
  createLoop server cmName size groupSize total fuel 0 stored

/-- The label selector of `list`: all sets, or those named. -/
structure Selector where
  names : Option (List String)

def Selector.selects (selector : Selector) (cm : ConfigMap) : Bool :=
  cm.labels.lookup "app" = some appLebel &&
    match selector.names, cm.labels.lookup "cmName" with
    | none, _ => true
    | some names, some name => names.contains name
    | some _, none => false

structure SetInfo where
  size : Int
  groupSize : Int
  total : Int
  deriving DecidableEq, Repr

/-- One item of the listing. -/
def recordItem (cmMap : StringMap SetInfo) (cm : ConfigMap) : Outcome (StringMap SetInfo) :=
  match cm.labels.lookup "cmName" with
  | none => fail ("failed to find the cmName of configmap " ++ cm.name)
  | some name =>
      let known := (cmMap.lookup name).getD
        ⟨((cm.data.lookup "data").map fun data => (data.utf8ByteSize : Int)).getD 0, 0, 0⟩
      let counted := { known with total := addInt64 known.total 1 }
      if counted.groupSize ≠ 0 then .ok (cmMap.insert name counted)
      else
        match cm.labels.lookup "ownerID" with
        | none => fail ("failed to find the ownerID of configmap " ++ name)
        | some ownerID =>
            match Decimal.atoi ownerID with
            | .error fault =>
                fail ("failed to convert ownerID " ++ ownerID ++ " to int: " ++ fault.message)
            | .ok ownerIDInt =>
                .ok (cmMap.insert name
                  (if counted.groupSize < ownerIDInt then
                    { counted with groupSize := ownerIDInt }
                  else counted))

/-- `answer` is what the server returns for the selected config maps, in its own
order. -/
def listConfigmaps (answer : Except String (List ConfigMap)) : Outcome (List ConfigMap) :=
  match answer with
  | .ok items => .ok items
  | .error message => fail ("failed to list configmaps: " ++ message)

def listConfigmapsByName (answer : Except String (List ConfigMap)) :
    Outcome (StringMap SetInfo) := do
  let items ← listConfigmaps answer
  items.foldlM recordItem ∅

end Kperf.Contrib.Configmaps
