import Kperf.Request.Generation
import Mathlib.Data.List.Infix
import Mathlib.Data.List.Nodup

/-! The sampling loop of `randomPayload`. Random bytes arrive in buffers; a byte
below the threshold gives a letter and the others are skipped, until the output
is full. The output does not show where one buffer ended and the next began. The
output and the buffer are taken to fit into memory; how long a slice may be at
most is part of the calls that build a request. -/

set_option autoImplicit false

namespace Kperf.Request.RandomPayload

open Outcome

def alphabet : List Char :=
  "abcdefghijklmnopqrstuvwxyzABCDEFGHIJKLMNOPQRSTUVWXYZ0123456789".toList

/-- The largest multiple of the alphabet's length that a byte can reach. -/
def threshold : UInt8 := UInt8.ofNat (256 - 256 % alphabet.length)

def letter (byte : UInt8) : Char :=
  alphabet.get ⟨byte.toNat % alphabet.length, Nat.mod_lt _ (by decide)⟩

/-- The random source: its bytes, and the error of each read that fails. -/
structure Source where
  stream : Nat → UInt8
  fails : Nat → Option String

/-- `rand.Read`, which fills the whole buffer or fails. -/
def Source.read (source : Source) (reads bufSize : Nat) : Except String (List UInt8) :=
  match source.fails reads with
  | some err => .error err
  | none => .ok ((List.range bufSize).map fun k => source.stream (reads * bufSize + k))

/-- Where the loop over one buffer stops. -/
inductive Filled where
  | done (out : List Char)
  | more (out : List Char) (i : Nat)
  deriving DecidableEq, Repr

/-- The loop over one buffer. -/
def fill (n : Nat) : List UInt8 → List Char → Nat → Outcome Filled
  | [], out, i => .ok (.more out i)
  | b :: rest, out, i =>
      if threshold ≤ b then fill n rest out i
      else if i < out.length then
        if i + 1 = n then .ok (.done (out.set i (letter b)))
        else fill n rest (out.set i (letter b)) (i + 1)
      else panics "runtime error: index out of range"

/-- The loop over the buffers. -/
def refill (source : Source) (n bufSize : Nat) :
    Nat → Nat → List Char → Nat → Option (Outcome String)
  | 0, _, _, _ => none
  | fuel + 1, reads, out, i =>
      if n ≤ i then some (.ok (String.ofList out))
      else match source.read reads bufSize with
        | .error err => some (panics ("failed to read random bytes: " ++ err))
        | .ok buf => match fill n buf out i with
          | .error fault => some (.error fault)
          | .ok (.done out) => some (.ok (String.ofList out))
          | .ok (.more out i) => refill source n bufSize fuel (reads + 1) out i

/-- `randomPayload` with buffers of another size. -/
def randomPayloadIn (bufSize : Nat) (source : Source) (n : Int) (fuel : Nat) :
    Option (Outcome String) :=
  if n ≤ 0 then some (.ok "")
  else
    let out := List.replicate n.toNat (Char.ofNat 0)
    refill source n.toNat bufSize fuel 0 out 0

def randomPayload (source : Source) (n : Int) (fuel : Nat) : Option (Outcome String) :=
  randomPayloadIn (min n.toNat 4096) source n fuel

/-! The specification: the letters of the accepted bytes. -/

def accepts (byte : UInt8) : Bool := byte < threshold

def letters (bytes : List UInt8) : List Char := (bytes.filter accepts).map letter

/-- The first bytes of a stream. -/
def firstBytes (stream : Nat → UInt8) (count : Nat) : List UInt8 := (List.range count).map stream

/-- The output while it is being written: what is there already, then zeros. -/
def output (n : Nat) (written : List Char) : List Char :=
  written ++ List.replicate (n - written.length) (Char.ofNat 0)

section Fill

variable {n : Nat} {written : List Char}

theorem output_set (room : written.length < n) (char : Char) :
    (output n written).set written.length char = output n (written ++ [char]) := by
  obtain ⟨left, rest⟩ : ∃ left, n - written.length = left + 1 := ⟨n - written.length - 1, by omega⟩
  have fewer : n - (written ++ [char]).length = left := by
    rw [List.length_append, List.length_singleton]
    omega
  rw [output, output, fewer, rest, List.set_append_right _ _ le_rfl, Nat.sub_self,
    List.replicate_succ, List.set_cons_zero, List.append_assoc, List.singleton_append]

theorem length_output (room : written.length ≤ n) : (output n written).length = n := by
  rw [output, List.length_append, List.length_replicate]
  omega

theorem output_full (full : written.length = n) : output n written = written := by
  rw [output, full, Nat.sub_self, List.replicate_zero, List.append_nil]

theorem fill_eq (buf : List UInt8) (room : written.length < n) :
    fill n buf (output n written) written.length =
      .ok (if (written ++ letters buf).length < n then
        .more (output n (written ++ letters buf)) (written ++ letters buf).length
      else .done ((written ++ letters buf).take n)) := by
  induction buf generalizing written with
  | nil =>
      have unchanged : written ++ letters [] = written := List.append_nil _
      rw [fill, unchanged, if_pos room]
  | cons b rest ih =>
      rw [fill]
      by_cases rejected : threshold ≤ b
      · have skipped : letters (b :: rest) = letters rest := by
          rw [letters, List.filter_cons_of_neg (by simpa [accepts] using rejected), letters]
        rw [if_pos rejected, skipped]
        exact ih room
      · have taken : letters (b :: rest) = letter b :: letters rest := by
          rw [letters, List.filter_cons_of_pos (by simpa [accepts] using rejected), List.map_cons,
            letters]
        have longer : (written ++ [letter b]).length = written.length + 1 := by simp
        have regrouped : written ++ letters (b :: rest) =
            written ++ [letter b] ++ letters rest := by
          rw [taken, List.append_assoc, List.singleton_append]
        rw [if_neg rejected, length_output room.le, if_pos room, output_set room, regrouped]
        by_cases last : written.length + 1 = n
        · have full : (written ++ [letter b]).length = n := longer.trans last
          rw [if_pos last, if_neg (by rw [List.length_append]; omega), output_full full,
            List.take_left' full]
        · rw [if_neg last, ← longer]
          exact ih (by omega)

end Fill

section Stream

variable {stream : Nat → UInt8}

theorem firstBytes_add (first more : Nat) :
    firstBytes stream (first + more) =
      firstBytes stream first ++ (List.range more).map fun k => stream (first + k) := by
  rw [firstBytes, List.range_add, List.map_append, List.map_map, firstBytes]
  rfl

theorem letters_append (first more : List UInt8) :
    letters (first ++ more) = letters first ++ letters more := by
  rw [letters, List.filter_append, List.map_append, letters, letters]

theorem letters_firstBytes_mono {fewer more : Nat} (le : fewer ≤ more) :
    letters (firstBytes stream fewer) <+: letters (firstBytes stream more) := by
  obtain ⟨rest, rfl⟩ := Nat.exists_eq_add_of_le le
  rw [firstBytes_add, letters_append]
  exact List.prefix_append _ _

theorem take_letters_mono {n fewer more : Nat} (le : fewer ≤ more)
    (enough : n ≤ (letters (firstBytes stream fewer)).length) :
    (letters (firstBytes stream fewer)).take n = (letters (firstBytes stream more)).take n := by
  obtain ⟨rest, longer⟩ : letters (firstBytes stream fewer) <+: letters (firstBytes stream more) :=
    letters_firstBytes_mono le
  rw [← longer, List.take_append_of_le_length enough]

/-- How far one looks does not matter once there are enough letters. -/
theorem take_letters_eq {n first second : Nat}
    (firstEnough : n ≤ (letters (firstBytes stream first)).length)
    (secondEnough : n ≤ (letters (firstBytes stream second)).length) :
    (letters (firstBytes stream first)).take n = (letters (firstBytes stream second)).take n := by
  cases Nat.le_total first second with
  | inl le => exact take_letters_mono le firstEnough
  | inr le => exact (take_letters_mono le secondEnough).symm

end Stream

section Refill

variable {source : Source} {n bufSize count fuel reads : Nat}

theorem read_eq (delivers : ∀ read, source.fails read = none) :
    source.read reads bufSize =
      .ok ((List.range bufSize).map fun k => source.stream (reads * bufSize + k)) := by
  rw [Source.read, delivers]

/-- The loop ends before it has read more than the bytes that hold enough letters,
if it reads at least one byte each time. -/
theorem refill_eq (delivers : ∀ read, source.fails read = none) (positive : 0 < bufSize)
    (enough : n ≤ (letters (firstBytes source.stream count)).length)
    (short : (letters (firstBytes source.stream (reads * bufSize))).length < n)
    (fuelled : count < reads + fuel) :
    refill source n bufSize fuel reads
        (output n (letters (firstBytes source.stream (reads * bufSize))))
        (letters (firstBytes source.stream (reads * bufSize))).length =
      some (.ok (String.ofList ((letters (firstBytes source.stream count)).take n))) := by
  induction fuel generalizing reads with
  | zero =>
      -- by now the bytes read include those that hold enough letters
      have read : count ≤ reads * bufSize :=
        le_trans (by omega) (Nat.le_mul_of_pos_right reads positive)
      have longer : (letters (firstBytes source.stream count)).length ≤
          (letters (firstBytes source.stream (reads * bufSize))).length :=
        (letters_firstBytes_mono read).length_le
      omega
  | succ fuel ih =>
      have grown : letters (firstBytes source.stream (reads * bufSize)) ++
          letters ((List.range bufSize).map fun k => source.stream (reads * bufSize + k)) =
            letters (firstBytes source.stream ((reads + 1) * bufSize)) := by
        rw [← letters_append, ← firstBytes_add, Nat.add_mul, Nat.one_mul]
      rw [refill, if_neg (by omega), read_eq delivers]
      dsimp only
      rw [fill_eq _ short, grown]
      by_cases more : (letters (firstBytes source.stream ((reads + 1) * bufSize))).length < n
      · rw [if_pos more]
        exact ih more (by omega)
      · rw [if_neg more, take_letters_eq (Nat.le_of_not_lt more) enough]

end Refill

/-- The payload without buffers: the first accepted bytes of a stream, as letters. -/
def sampled (stream : Nat → UInt8) (count n : Nat) : String :=
  String.ofList ((((firstBytes stream count).filter fun byte => byte < 248).take n).map letter)

theorem accepts_eq : accepts = fun byte => decide (byte < 248) := by
  funext byte
  have bound : threshold = 248 := by decide
  rw [accepts, bound]

theorem length_letters (bytes : List UInt8) :
    (letters bytes).length = (bytes.filter fun byte => byte < 248).length := by
  rw [letters, List.length_map, accepts_eq]

theorem sampled_eq (stream : Nat → UInt8) (count n : Nat) :
    sampled stream count n = String.ofList ((letters (firstBytes stream count)).take n) := by
  rw [sampled, letters, ← List.map_take, accepts_eq]

section Sampled

variable {source : Source} {count fuel : Nat} {n : Int}

theorem randomPayloadIn_eq {bufSize : Nat} (delivers : ∀ read, source.fails read = none)
    (positive : 0 < n → 0 < bufSize)
    (enough : n ≤ ((firstBytes source.stream count).filter fun byte => byte < 248).length)
    (fuelled : count < fuel) :
    randomPayloadIn bufSize source n fuel =
      some (.ok (sampled source.stream count n.toNat)) := by
  rw [randomPayloadIn, sampled_eq]
  by_cases empty : n ≤ 0
  · rw [if_pos empty, Int.toNat_of_nonpos empty, List.take_zero]
  · rw [if_neg empty]
    rw [← length_letters] at enough
    have start : letters (firstBytes source.stream (0 * bufSize)) = [] := by
      rw [Nat.zero_mul]
      rfl
    have short : (letters (firstBytes source.stream (0 * bufSize))).length < n.toNat := by
      rw [start, List.length_nil]
      omega
    have ran : refill source n.toNat bufSize fuel 0 (output n.toNat _) _ = _ :=
      refill_eq delivers (positive (by omega)) (Int.toNat_le.mpr enough) short (by omega)
    rw [start] at ran
    exact ran

theorem randomPayload_eq (delivers : ∀ read, source.fails read = none)
    (enough : n ≤ ((firstBytes source.stream count).filter fun byte => byte < 248).length)
    (fuelled : count < fuel) :
    randomPayload source n fuel = some (.ok (sampled source.stream count n.toNat)) :=
  randomPayloadIn_eq delivers (by omega) enough fuelled

/-- The payload of the calls that build a request is what the loop returns, as long
as the slice can be allocated. -/
theorem randomPayload_refines {maxAlloc : Nat} (allocated : n ≤ maxAlloc)
    (delivers : ∀ read, source.fails read = none)
    (enough : n ≤ ((firstBytes source.stream count).filter fun byte => byte < 248).length)
    (fuelled : count < fuel) :
    randomPayload source n fuel =
      some (Request.randomPayload maxAlloc n (sampled source.stream count n.toNat)) := by
  rw [randomPayload_eq delivers enough fuelled, Request.randomPayload,
    if_neg (by omega : ¬(maxAlloc : Int) < n)]
  by_cases empty : n ≤ 0
  · rw [if_pos empty, sampled, Int.toNat_of_nonpos empty, List.take_zero]
    rfl
  · rw [if_neg empty]

end Sampled

/-! The alphabet. -/

theorem alphabet_nodup : alphabet.Nodup := by decide

theorem letter_eq_iff (byte : UInt8) (k : Fin alphabet.length) :
    letter byte = alphabet.get k ↔ byte.toNat % alphabet.length = k := by
  have injective : Function.Injective alphabet.get :=
    List.nodup_iff_injective_get.mp alphabet_nodup
  rw [letter, injective.eq_iff, Fin.ext_iff]

/-- The accepted bytes that give a letter. -/
def bytesOf (char : Char) : List UInt8 :=
  ((List.range 256).map UInt8.ofNat).filter fun byte => accepts byte && letter byte == char

theorem length_residue : ∀ k : Fin alphabet.length,
    (((List.range 256).map UInt8.ofNat).filter fun byte =>
      accepts byte && decide (byte.toNat % alphabet.length = k)).length = 4 := by
  decide +kernel

theorem length_bytesOf (char : Char) (member : char ∈ alphabet) : (bytesOf char).length = 4 := by
  obtain ⟨k, rfl⟩ := List.mem_iff_get.mp member
  have chosen (byte : UInt8) : (letter byte == alphabet.get k) =
      decide (byte.toNat % alphabet.length = k) := by
    rw [beq_eq_decide]
    exact decide_eq_decide.mpr (letter_eq_iff byte k)
  simp only [bytesOf, chosen]
  exact length_residue k

/-- A source that delivers enough accepted bytes gives the first of them as letters,
in buffers of any size, and every letter stands for as many bytes. -/
theorem randomPayload_samples (source : Source) (n : Int) :
    (n ≤ 0 → ∀ fuel, randomPayload source n fuel = some (.ok "")) ∧
    (∀ count, (∀ read, source.fails read = none) →
      n ≤ ((firstBytes source.stream count).filter fun byte => byte < 248).length →
        (∀ fuel, count < fuel →
          randomPayload source n fuel = some (.ok (sampled source.stream count n.toNat))) ∧
        (sampled source.stream count n.toNat).length = n.toNat ∧
        ∀ bufSize fuel, 0 < bufSize → count < fuel →
          randomPayloadIn bufSize source n fuel =
            some (.ok (sampled source.stream count n.toNat))) ∧
    ∀ char ∈ alphabet, (bytesOf char).length = 4 := by
  refine ⟨fun empty fuel => ?_, fun count delivers enough => ⟨?_, ?_, ?_⟩, length_bytesOf⟩
  · rw [randomPayload, randomPayloadIn, if_pos empty]
  · intro fuel fuelled
    exact randomPayload_eq delivers enough fuelled
  · rw [sampled, String.length_ofList, List.length_map, List.length_take]
    omega
  · intro bufSize fuel positive fuelled
    exact randomPayloadIn_eq delivers (fun _ => positive) enough fuelled

/-- Every second byte is refused. -/
def alternating : Source where
  stream := fun k => if k % 2 = 0 then 250 else UInt8.ofNat k
  fails := fun _ => none

theorem randomPayload_samples_alternating :
    (∀ fuel, 6 < fuel → randomPayload alternating 3 fuel = some (.ok "bdf")) ∧
      ∀ bufSize fuel, 0 < bufSize → 6 < fuel →
        randomPayloadIn bufSize alternating 3 fuel = some (.ok "bdf") := by
  obtain ⟨-, samples, -⟩ := randomPayload_samples alternating 3
  obtain ⟨returned, -, anySize⟩ := samples 6 (fun _ => rfl) (by decide)
  exact ⟨returned, anySize⟩

end Kperf.Request.RandomPayload
