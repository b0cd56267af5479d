import Mathlib.Tactic.IntervalCases
import ZaofuFormal.Foundation.PyString

/-!
# Decoding UTF-8

`decode("utf-8", "replace")`: bytes that do not continue the code point that was
begun are replaced, one replacement for the longest part that could have been
continued.  What `encode("utf-8")` writes is decoded as it was.
-/

namespace ZaofuFormal.Foundation.Utf8

/-- A code point that was begun: the bits so far, the number of bytes to come, and
the range of the next one. -/
structure Pending where
  value : Nat
  left : Nat
  low : Nat
  high : Nat

def replacement : Char := Char.ofNat 0xFFFD

/-- The first byte of a code point. -/
def start (byte : Nat) : List Char × Option Pending :=
  if byte < 0x80 then ([Char.ofNat byte], none)
  else if 0xC2 ≤ byte ∧ byte ≤ 0xDF then ([], some ⟨byte - 0xC0, 1, 0x80, 0xBF⟩)
  else if byte = 0xE0 then ([], some ⟨0, 2, 0xA0, 0xBF⟩)
  else if byte = 0xED then ([], some ⟨13, 2, 0x80, 0x9F⟩)
  else if 0xE1 ≤ byte ∧ byte ≤ 0xEF then ([], some ⟨byte - 0xE0, 2, 0x80, 0xBF⟩)
  else if byte = 0xF0 then ([], some ⟨0, 3, 0x90, 0xBF⟩)
  else if byte = 0xF4 then ([], some ⟨4, 3, 0x80, 0x8F⟩)
  else if 0xF1 ≤ byte ∧ byte ≤ 0xF3 then ([], some ⟨byte - 0xF0, 3, 0x80, 0xBF⟩)
  else ([replacement], none)

/-- The code points that a byte completes, and the one that it leaves begun. -/
def step : Option Pending → Nat → List Char × Option Pending
  | none, byte => start byte
  | some pending, byte =>
      if pending.low ≤ byte ∧ byte ≤ pending.high then
        let value := pending.value * 64 + (byte - 0x80)
        if pending.left = 1 then ([Char.ofNat value], none)
        else ([], some ⟨value, pending.left - 1, 0x80, 0xBF⟩)
      else (replacement :: (start byte).1, (start byte).2)

def decodeFrom : Option Pending → List UInt8 → List Char
  | none, [] => []
  | some _, [] => [replacement]
  | pending, byte :: rest =>
      (step pending byte.toNat).1 ++ decodeFrom (step pending byte.toNat).2 rest

def decode (bytes : List UInt8) : String := String.ofList (decodeFrom none bytes)

theorem decodeFrom_ascii (bytes rest : List UInt8) (ascii : ∀ byte ∈ bytes, byte.toNat < 0x80) :
    decodeFrom none (bytes ++ rest) =
      bytes.map (fun byte => Char.ofNat byte.toNat) ++ decodeFrom none rest := by
  induction bytes with
  | nil => rfl
  | cons byte others ih =>
      have first : step none byte.toNat = ([Char.ofNat byte.toNat], none) :=
        if_pos (ascii byte List.mem_cons_self)
      have later := ih fun other member => ascii other (List.mem_cons_of_mem byte member)
      rw [List.cons_append, decodeFrom, first, later]
      rfl

/-- Bytes of ASCII are the code points of the text. -/
theorem decode_ascii {bytes : List UInt8} (ascii : ∀ byte ∈ bytes, byte.toNat < 0x80) :
    decode bytes = String.ofList (bytes.map fun byte => Char.ofNat byte.toNat) := by
  have whole := decodeFrom_ascii bytes [] ascii
  rw [List.append_nil] at whole
  rw [decode, whole]
  exact congrArg String.ofList (List.append_nil _)

example : decode [0xC3, 0xA9, 0xE2, 0x82, 0x41] =
    String.ofList [Char.ofNat 0xE9, replacement, 'A'] := by decide

/-- The bytes of a code point. -/
def encodeChar (char : Char) : List UInt8 :=
  let code := char.toNat
  (if code < 0x80 then [code]
    else if code < 0x800 then [0xC0 + code / 64, 0x80 + code % 64]
    else if code < 0x10000 then [0xE0 + code / 4096, 0x80 + code / 64 % 64, 0x80 + code % 64]
    else [0xF0 + code / 262144, 0x80 + code / 4096 % 64, 0x80 + code / 64 % 64,
      0x80 + code % 64]).map UInt8.ofNat

/-- `encode("utf-8")`. -/
def encode (chars : List Char) : List UInt8 := chars.flatMap encodeChar

@[simp] theorem encode_nil : encode [] = [] := rfl

theorem encode_append (first second : List Char) :
    encode (first ++ second) = encode first ++ encode second :=
  List.flatMap_append

theorem length_encodeChar_pos (char : Char) : 0 < (encodeChar char).length := by
  unfold encodeChar
  dsimp only
  rw [List.length_map]
  split
  · exact Nat.zero_lt_one
  · split
    · exact Nat.zero_lt_two
    · split <;> exact Nat.succ_pos _

/-- A text has no more code points than bytes. -/
theorem length_le_encode (chars : List Char) : chars.length ≤ (encode chars).length := by
  induction chars with
  | nil => exact Nat.zero_le _
  | cons char rest ih =>
      have first := length_encodeChar_pos char
      rw [encode, List.flatMap_cons, List.length_append, ← encode, List.length_cons]
      omega

theorem start_two {byte : Nat} (low : 0xC2 ≤ byte) (high : byte ≤ 0xDF) :
    start byte = ([], some ⟨byte - 0xC0, 1, 0x80, 0xBF⟩) := by
  rw [start, if_neg (by omega), if_pos ⟨low, high⟩]

theorem start_three {lead : Nat} (small : lead < 16) :
    start (0xE0 + lead) = ([], some ⟨lead, 2, if lead = 0 then 0xA0 else 0x80,
      if lead = 13 then 0x9F else 0xBF⟩) := by
  interval_cases lead <;> rfl

theorem start_four {lead : Nat} (small : lead < 5) :
    start (0xF0 + lead) = ([], some ⟨lead, 3, if lead = 0 then 0x90 else 0x80,
      if lead = 4 then 0x8F else 0xBF⟩) := by
  interval_cases lead <;> rfl

theorem step_continue {pending : Pending} {byte : Nat} (low : pending.low ≤ byte)
    (high : byte ≤ pending.high) (more : pending.left ≠ 1) :
    step (some pending) byte =
      ([], some ⟨pending.value * 64 + (byte - 0x80), pending.left - 1, 0x80, 0xBF⟩) := by
  rw [step, if_pos ⟨low, high⟩]
  exact if_neg more

theorem step_last {pending : Pending} {byte : Nat} (low : pending.low ≤ byte)
    (high : byte ≤ pending.high) (last : pending.left = 1) :
    step (some pending) byte =
      ([Char.ofNat (pending.value * 64 + (byte - 0x80))], none) := by
  rw [step, if_pos ⟨low, high⟩]
  exact if_pos last

theorem decodeFrom_cons (pending : Option Pending) {byte : Nat} (small : byte < 256)
    (rest : List UInt8) :
    decodeFrom pending (UInt8.ofNat byte :: rest) =
      (step pending byte).1 ++ decodeFrom (step pending byte).2 rest := by
  have same : (UInt8.ofNat byte).toNat = byte := UInt8.toNat_ofNat_of_lt' small
  cases pending <;> rw [decodeFrom, same]

theorem decodeFrom_last (value : Nat) {tail : Nat} (small : tail < 64) (rest : List UInt8) :
    decodeFrom (some ⟨value, 1, 0x80, 0xBF⟩) (UInt8.ofNat (0x80 + tail) :: rest) =
      Char.ofNat (value * 64 + tail) :: decodeFrom none rest := by
  rw [decodeFrom_cons _ (by omega), step_last (by dsimp only; omega) (by dsimp only; omega) rfl]
  have back : 0x80 + tail - 0x80 = tail := by omega
  rw [back]
  rfl

theorem decodeFrom_middle (value left : Nat) (more : left ≠ 1) {tail : Nat} (small : tail < 64)
    {low high : Nat} (above : low ≤ 0x80 + tail) (below : 0x80 + tail ≤ high)
    (rest : List UInt8) :
    decodeFrom (some ⟨value, left, low, high⟩) (UInt8.ofNat (0x80 + tail) :: rest) =
      decodeFrom (some ⟨value * 64 + tail, left - 1, 0x80, 0xBF⟩) rest := by
  rw [decodeFrom_cons _ (by omega), step_continue above below more]
  have back : 0x80 + tail - 0x80 = tail := by omega
  rw [back]
  rfl

theorem decodeFrom_encodeChar (char : Char) (rest : List UInt8) :
    decodeFrom none (encodeChar char ++ rest) = char :: decodeFrom none rest := by
  have valid : char.toNat < 0xD800 ∨ (0xDFFF < char.toNat ∧ char.toNat < 0x110000) := char.valid
  have whole : Char.ofNat char.toNat = char := Char.ofNat_toNat char
  unfold encodeChar
  dsimp only
  split
  · rename_i ascii
    rw [List.map_singleton, List.singleton_append, decodeFrom_cons none (by omega), step, start,
      if_pos ascii, whole]
    rfl
  · split
    · rename_i notAscii short
      have first : start (0xC0 + char.toNat / 64) =
          ([], some ⟨char.toNat / 64, 1, 0x80, 0xBF⟩) := by
        rw [start_two (by omega) (by omega)]
        have back : 0xC0 + char.toNat / 64 - 0xC0 = char.toNat / 64 := by omega
        rw [back]
      have join : char.toNat / 64 * 64 + char.toNat % 64 = char.toNat := by omega
      simp only [List.map_cons, List.map_nil, List.cons_append, List.nil_append]
      rw [decodeFrom_cons none (by omega), step, first, List.nil_append,
        decodeFrom_last _ (by omega), join, whole]
    · split
      · rename_i notAscii notShort middle
        have first := @start_three (char.toNat / 4096) (by omega)
        have join : (char.toNat / 4096 * 64 + char.toNat / 64 % 64) * 64 + char.toNat % 64 =
            char.toNat := by omega
        simp only [List.map_cons, List.map_nil, List.cons_append, List.nil_append]
        rw [decodeFrom_cons none (by omega), step, first, List.nil_append,
          decodeFrom_middle _ 2 (by omega) (by omega) (by split <;> omega) (by split <;> omega),
          decodeFrom_last _ (by omega), join, whole]
      · rename_i notAscii notShort notMiddle
        have first := @start_four (char.toNat / 262144) (by omega)
        have join : ((char.toNat / 262144 * 64 + char.toNat / 4096 % 64) * 64 +
            char.toNat / 64 % 64) * 64 + char.toNat % 64 = char.toNat := by omega
        simp only [List.map_cons, List.map_nil, List.cons_append, List.nil_append]
        rw [decodeFrom_cons none (by omega), step, first, List.nil_append,
          decodeFrom_middle _ 3 (by omega) (by omega) (by split <;> omega) (by split <;> omega),
          decodeFrom_middle _ 2 (by omega) (by omega) (by omega) (by omega),
          decodeFrom_last _ (by omega), join, whole]

/-- What was encoded is decoded, whatever follows it. -/
theorem decodeFrom_encode (chars : List Char) (rest : List UInt8) :
    decodeFrom none (encode chars ++ rest) = chars ++ decodeFrom none rest := by
  induction chars with
  | nil => rfl
  | cons char others ih =>
      rw [encode, List.flatMap_cons, List.append_assoc, ← encode, decodeFrom_encodeChar, ih]
      rfl

theorem decodeFrom_encode_self (chars : List Char) : decodeFrom none (encode chars) = chars := by
  have whole := decodeFrom_encode chars []
  rw [List.append_nil] at whole
  rw [whole]
  exact List.append_nil chars

end ZaofuFormal.Foundation.Utf8
