import Mathlib.Algebra.Group.Nat.Defs
import Pinpoint.Text.Newline
import Pinpoint.Text.Utf8

/-!
# Texts that are written to files

A text is written in UTF-8, and the newlines in it become what ends a line in the file.
Strict decoding gives back every text that was encoded, and reading with all endings as
newlines gives back every text that has no carriage return of its own. So what was
written is what is read, with any of the endings.
-/

namespace Pinpoint.Text

namespace Utf8

/-- The bytes of a character behind its first one, `count` of them with six bits each. -/
def tailBytes : Nat → Nat → List UInt8
  | 0, _ => []
  | count + 1, n => UInt8.ofNat (n / 64 ^ count % 64 + 128) :: tailBytes count n

theorem toNat_byte {n : Nat} (h : n < 256) : (UInt8.ofNat n).toNat = n :=
  UInt8.toNat_ofNat_of_lt' h

section

variable {position : Nat} {rest : List UInt8} {u : Unfinished} {b : UInt8}

theorem decodeFrom_lead {l : Lead} (h : lead? b.toNat = some l) :
    decodeFrom none position (b :: rest) =
      if l.more = 0 then (decodeFrom none (position + 1) rest).map (Char.ofNat l.bits :: ·)
      else decodeFrom (some ⟨b.toNat, position, 1, l.bits, l.more, l.low, l.high⟩) (position + 1) rest := by
  simp only [decodeFrom, h]

/-- A byte behind the first one adds its six bits. -/
theorem decodeFrom_tailByte {n count : Nat} (hbits : u.bits = n / 64 ^ (count + 1))
    (hlow : u.low ≤ n / 64 ^ count % 64 + 128) (hhigh : n / 64 ^ count % 64 + 128 ≤ u.high) :
    decodeFrom (some u) position (UInt8.ofNat (n / 64 ^ count % 64 + 128) :: rest) =
      if u.more = 1 then
        (decodeFrom none (position + 1) rest).map (Char.ofNat (n / 64 ^ count) :: ·)
      else
        decodeFrom (some ⟨u.first, u.start, u.read + 1, n / 64 ^ count, u.more - 1, 0x80, 0xBF⟩)
          (position + 1) rest := by
  have hbyte : (UInt8.ofNat (n / 64 ^ count % 64 + 128)).toNat = n / 64 ^ count % 64 + 128 :=
    toNat_byte (by omega)
  have hread : u.bits * 64 + (n / 64 ^ count % 64 + 128 - 0x80) = n / 64 ^ count := by
    rw [hbits, Nat.pow_succ, ← Nat.div_div_eq_div_mul]
    omega
  rw [decodeFrom, hbyte, if_pos ⟨hlow, hhigh⟩, hread]

theorem decodeFrom_tailBytes {n count : Nat} (hmore : u.more = count + 1)
    (hbits : u.bits = n / 64 ^ (count + 1)) (hlow : u.low ≤ n / 64 ^ count % 64 + 128)
    (hhigh : n / 64 ^ count % 64 + 128 ≤ u.high) (position : Nat) (rest : List UInt8) :
    ∃ next, decodeFrom (some u) position (tailBytes (count + 1) n ++ rest) =
      (decodeFrom none next rest).map (Char.ofNat n :: ·) := by
  induction count generalizing u position with
  | zero =>
    rw [tailBytes, List.cons_append, decodeFrom_tailByte hbits hlow hhigh, if_pos hmore,
      Nat.pow_zero, Nat.div_one]
    exact ⟨position + 1, rfl⟩
  | succ count ih =>
    rw [tailBytes, List.cons_append, decodeFrom_tailByte hbits hlow hhigh, if_neg (by omega), hmore]
    exact ih rfl rfl (by show 0x80 ≤ _; omega) (by show _ ≤ 0xBF; omega) _

end

theorem lead?_two {n : Nat} (h : 0x80 ≤ n) (h' : n ≤ 0x7FF) :
    lead? (n / 64 % 32 + 192) = some ⟨n / 64, 1, 0x80, 0xBF⟩ := by
  have hbits : n / 64 % 32 + 192 - 0xC0 = n / 64 := by omega
  rw [lead?, if_neg (by omega), if_neg (by omega), if_pos (by omega), hbits]

theorem lead?_three {n : Nat} (h : 0x7FF < n) (h' : n ≤ 0xFFFF) (hscalar : n < 0xD800 ∨ 0xDFFF < n) :
    ∃ low high, lead? (n / 4096 % 16 + 224) = some ⟨n / 4096, 2, low, high⟩ ∧
      low ≤ n / 64 % 64 + 128 ∧ n / 64 % 64 + 128 ≤ high := by
  have hbits : n / 4096 % 16 + 224 - 0xE0 = n / 4096 := by omega
  rw [lead?, if_neg (by omega), if_neg (by omega), if_neg (by omega), hbits]
  by_cases hfirst : n / 4096 % 16 + 224 = 0xE0
  · rw [if_pos hfirst]
    exact ⟨_, _, rfl, by omega, by omega⟩
  rw [if_neg hfirst]
  by_cases hlast : n / 4096 % 16 + 224 = 0xED
  · -- What could follow here beyond this range are the surrogates.
    rw [if_pos hlast]
    exact ⟨_, _, rfl, by omega, by omega⟩
  · rw [if_neg hlast, if_pos (by omega)]
    exact ⟨_, _, rfl, by omega, by omega⟩

theorem lead?_four {n : Nat} (h : 0xFFFF < n) (h' : n < 0x110000) :
    ∃ low high, lead? (n / 262144 % 8 + 240) = some ⟨n / 262144, 3, low, high⟩ ∧
      low ≤ n / 4096 % 64 + 128 ∧ n / 4096 % 64 + 128 ≤ high := by
  have hbits : n / 262144 % 8 + 240 - 0xF0 = n / 262144 := by omega
  rw [lead?, if_neg (by omega), if_neg (by omega), if_neg (by omega), if_neg (by omega),
    if_neg (by omega), if_neg (by omega), hbits]
  by_cases hfirst : n / 262144 % 8 + 240 = 0xF0
  · rw [if_pos hfirst]
    exact ⟨_, _, rfl, by omega, by omega⟩
  rw [if_neg hfirst]
  by_cases hmiddle : n / 262144 % 8 + 240 < 0xF4
  · rw [if_pos hmiddle]
    exact ⟨_, _, rfl, by omega, by omega⟩
  · rw [if_neg hmiddle, if_pos (by omega)]
    exact ⟨_, _, rfl, by omega, by omega⟩

/-- The first byte of a character says how many bytes follow, and the next one is in its range. -/
theorem exists_utf8EncodeChar_eq (c : Char) :
    ∃ b count low high, String.utf8EncodeChar c = b :: tailBytes count c.toNat ∧
      lead? b.toNat = some ⟨c.toNat / 64 ^ count, count, low, high⟩ ∧
      ∀ k, count = k + 1 →
        low ≤ c.toNat / 64 ^ k % 64 + 128 ∧ c.toNat / 64 ^ k % 64 + 128 ≤ high := by
  have hvalid : c.toNat < 0xD800 ∨ 0xDFFF < c.toNat ∧ c.toNat < 0x110000 := c.valid
  have hn : c.val.toNat = c.toNat := rfl
  simp only [String.utf8EncodeChar, hn]
  generalize c.toNat = n at hvalid
  by_cases hone : n ≤ 127
  · rw [if_pos hone]
    refine ⟨UInt8.ofNat n, 0, 0x80, 0xBF, rfl, ?_, nofun⟩
    rw [toNat_byte (by omega), lead?, if_pos (by omega), Nat.pow_zero, Nat.div_one]
  rw [if_neg hone]
  by_cases htwo : n ≤ 2047
  · rw [if_pos htwo]
    refine ⟨UInt8.ofNat (n / 64 % 32 + 192), 1, 0x80, 0xBF, ?_, ?_, fun k hk => ?_⟩
    · simp only [tailBytes, Nat.reducePow, Nat.div_one]
    · rw [toNat_byte (by omega)]
      exact lead?_two (by omega) htwo
    · omega
  rw [if_neg htwo]
  by_cases hthree : n ≤ 65535
  · rw [if_pos hthree]
    obtain ⟨low, high, hlead, hrange⟩ := lead?_three (n := n) (by omega) hthree (by omega)
    refine ⟨UInt8.ofNat (n / 4096 % 16 + 224), 2, low, high, ?_, ?_, fun k hk => ?_⟩
    · simp only [tailBytes, Nat.reducePow, Nat.div_one]
    · rw [toNat_byte (by omega)]
      exact hlead
    · obtain rfl : k = 1 := by omega
      exact hrange
  · rw [if_neg hthree]
    obtain ⟨low, high, hlead, hrange⟩ := lead?_four (n := n) (by omega) (by omega)
    refine ⟨UInt8.ofNat (n / 262144 % 8 + 240), 3, low, high, ?_, ?_, fun k hk => ?_⟩
    · simp only [tailBytes, Nat.reducePow, Nat.div_one]
    · rw [toNat_byte (by omega)]
      exact hlead
    · obtain rfl : k = 2 := by omega
      exact hrange

theorem decodeFrom_utf8EncodeChar (c : Char) (position : Nat) (rest : List UInt8) :
    ∃ next, decodeFrom none position (String.utf8EncodeChar c ++ rest) =
      (decodeFrom none next rest).map (c :: ·) := by
  obtain ⟨b, count, low, high, hbytes, hlead, hrange⟩ := exists_utf8EncodeChar_eq c
  rw [hbytes, List.cons_append, decodeFrom_lead hlead]
  cases count with
  | zero =>
    rw [if_pos rfl, Nat.pow_zero, Nat.div_one, Char.ofNat_toNat]
    exact ⟨position + 1, rfl⟩
  | succ count =>
    obtain ⟨hlow, hhigh⟩ := hrange count rfl
    rw [if_neg (Nat.succ_ne_zero count)]
    obtain ⟨next, hnext⟩ := decodeFrom_tailBytes
      (u := ⟨b.toNat, position, 1, c.toNat / 64 ^ (count + 1), count + 1, low, high⟩)
      rfl rfl hlow hhigh (position + 1) rest
    rw [Char.ofNat_toNat] at hnext
    exact ⟨next, hnext⟩

theorem decodeFrom_encode (t : Text) (position : Nat) : decodeFrom none position (encode t) = .ok t := by
  induction t generalizing position with
  | nil => rfl
  | cons c rest ih =>
    obtain ⟨next, hnext⟩ := decodeFrom_utf8EncodeChar c position (encode rest)
    rw [encode, List.flatMap_cons, ← encode, hnext, ih]
    rfl

theorem decode_encode (t : Text) : decode (encode t) = .ok t :=
  decodeFrom_encode t 0

end Utf8

namespace Newline

/-- What ends the lines of a file. -/
inductive Ending
  | newline
  | carriageReturn
  | both
deriving DecidableEq, Repr

def Ending.text : Ending → Text
  | newline => ['\n']
  | carriageReturn => ['\r']
  | both => ['\r', '\n']

/-- The text with this ending in place of every newline. -/
def withEnding (ending : Ending) (t : Text) : Text :=
  t.flatMap fun c => if c = '\n' then ending.text else [c]

section

variable {t : Text} {c : Char}

theorem universal_cons (h : c ≠ '\r') : universal (c :: t) = c :: universal t := by
  rw [universal, if_neg h]
  rintro rest rfl
  exact absurd rfl h

theorem universal_carriageReturn (h : t.head? ≠ some '\n') :
    universal ('\r' :: t) = '\n' :: universal t := by
  rw [universal, if_pos rfl]
  rintro rest - rfl
  exact h rfl

theorem newline_notMem_withEnding (t : Text) : '\n' ∉ withEnding .carriageReturn t := by
  intro h
  obtain ⟨c, -, hc⟩ := List.mem_flatMap.mp h
  split at hc
  · simp [Ending.text] at hc
  · next hne => exact hne (List.mem_singleton.mp hc).symm

end

/-- The ending does not matter to what is read. -/
theorem universal_withEnding {t : Text} (h : '\r' ∉ t) (ending : Ending) :
    universal (withEnding ending t) = t := by
  induction t with
  | nil => rfl
  | cons c rest ih =>
    obtain ⟨hc, hrest⟩ := List.ne_and_not_mem_of_not_mem_cons h
    rw [withEnding, List.flatMap_cons, ← withEnding]
    by_cases hend : c = '\n'
    · rw [if_pos hend, hend]
      cases ending with
      | newline =>
        show universal ('\n' :: withEnding .newline rest) = _
        rw [universal_cons (by decide), ih hrest]
      | carriageReturn =>
        -- A blank line may follow, but its end is no newline that would merge with this one.
        have hnext : (withEnding .carriageReturn rest).head? ≠ some '\n' :=
          fun hhead => newline_notMem_withEnding rest (List.mem_of_mem_head? hhead)
        show universal ('\r' :: withEnding .carriageReturn rest) = _
        rw [universal_carriageReturn hnext, ih hrest]
      | both =>
        show '\n' :: universal (withEnding .both rest) = _
        rw [ih hrest]
    · rw [if_neg hend, List.singleton_append, universal_cons (Ne.symm hc), ih hrest]

end Newline

/-- The text that the bytes of a file are read as. -/
def ofBytes (bytes : List UInt8) : Except Utf8.Fault Text :=
  (Utf8.decode bytes).map Newline.universal

theorem ofBytes_written {t : Text} (h : '\r' ∉ t) (ending : Newline.Ending) :
    ofBytes (Utf8.encode (Newline.withEnding ending t)) = .ok t := by
  rw [ofBytes, Utf8.decode_encode, Except.map, Newline.universal_withEnding h]

end Pinpoint.Text
