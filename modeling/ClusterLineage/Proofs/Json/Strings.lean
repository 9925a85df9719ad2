import ClusterLineage.Json.Reader
import ClusterLineage.Json.Writer
import ClusterLineage.Proofs.Text.Unicode
import Mathlib.Algebra.GroupWithZero.Nat

/-!
# Written strings are read back

A written string names each code as itself, by a letter, by its number, or by the numbers of a pair
of surrogates.  The reader takes each of these for one code, whatever stands behind it, so it gives
back the codes of the string one after the other.
-/

namespace ClusterLineage.Json

variable {c : Code} {t : Text} {opening rest : List Char} {read : List Code} {fuel : Nat}

/-! ## Numbers in hexadecimal -/

theorem hexValue?_digitChar {d : Nat} (hd : d < 16) : hexValue? (Nat.digitChar d) = some d := by
  have hall : ∀ d : Fin 16, hexValue? (Nat.digitChar d) = some d.val := by decide
  exact hall ⟨d, hd⟩

/-- Digits written from the last one on are read from the first one on. -/
theorem hexFrom?_hexDigits (width more code n : Nat) (rest : List Char) :
    hexFrom? (width + more) code (Text.hexDigits width n ++ rest) =
      hexFrom? more (code * 16 ^ width + n % 16 ^ width) rest := by
  induction width generalizing more n rest with
  | zero => simp [Text.hexDigits, Nat.mod_one]
  | succ width ih =>
    have hvalue : (code * 16 ^ width + n / 16 % 16 ^ width) * 16 + n % 16 =
        code * 16 ^ (width + 1) + n % 16 ^ (width + 1) := by
      rw [Nat.pow_succ', Nat.mod_mul, Nat.add_mul, Nat.mul_assoc, Nat.mul_comm (16 ^ width)]
      omega
    rw [Text.hexDigits, List.append_assoc, List.singleton_append, Nat.add_right_comm, Nat.add_assoc,
      ih, hexFrom?, hexValue?_digitChar (Nat.mod_lt n (by decide))]
    simp only [hvalue]

theorem length_hexDigits (width n : Nat) : (Text.hexDigits width n).length = width := by
  induction width generalizing n with
  | zero => rfl
  | succ width ih => simp [Text.hexDigits, ih]

theorem hexCode?_hexDigits
    {n : Nat}
    (hn : n < 0x10000) :
    hexCode? (Text.hexDigits 4 n ++ rest) = some (.ofNat n) := by
  have hlt : n < 16 ^ 4 := hn
  have h := hexFrom?_hexDigits 4 0 0 n rest
  rw [Nat.mod_eq_of_lt hlt, Nat.zero_mul, Nat.zero_add] at h
  rw [hexCode?, h, hexFrom?, Option.map_some]

theorem drop_hexDigits (n : Nat) (rest : List Char) :
    (Text.hexDigits 4 n ++ rest).drop 4 = rest :=
  List.drop_left' (length_hexDigits 4 n)

/-! ## Escapes -/

theorem toNat_ofNat {n : Nat} (hn : n < 0x110000) : (Code.ofNat n).toNat = n := by
  simp [Code.ofNat, hn]

theorem ofNat_toNat (c : Code) : Code.ofNat c.toNat = c := by
  simp [Code.ofNat, c.toNat_lt]

theorem readEscape_number (opening digits : List Char) :
    readEscape opening ('u' :: digits) = readUnicodeEscape ('u' :: digits) := rfl

/-- The number of a code that is no surrogate stands for the code. -/
theorem readUnicodeEscape_unit
    (hc : c.isSurrogate = false)
    (hsmall : c.toNat < 0x10000)
    (hrest : rest ≠ []) :
    readUnicodeEscape ('u' :: (Text.hexDigits 4 c.toNat ++ rest)) = .ok (c, rest) := by
  have hhigh : c.isHighSurrogate = false := (Bool.or_eq_false_iff.mp hc).1
  rw [readUnicodeEscape]
  simp only [List.drop_one, List.tail_cons, drop_hexDigits, List.isEmpty_iff, hrest, if_false,
    hexCode?_hexDigits hsmall, ofNat_toNat, hhigh, Bool.false_and, Bool.false_eq_true]

/-- The numbers of a pair of surrogates stand for the code that the pair makes up. -/
theorem readUnicodeEscape_pair
    {high low : Nat}
    (hhigh : 0xD800 ≤ high ∧ high < 0xDC00)
    (hlow : 0xDC00 ≤ low ∧ low < 0xE000)
    (hrest : rest ≠ []) :
    readUnicodeEscape
        ('u' :: (Text.hexDigits 4 high ++ '\\' :: 'u' :: (Text.hexDigits 4 low ++ rest))) =
      .ok (pairCode (.ofNat high) (.ofNat low), rest) := by
  have hhighSurrogate : (Code.ofNat high).isHighSurrogate = true := by
    rw [Code.isHighSurrogate, toNat_ofNat (by omega)]
    simpa using hhigh
  have hlowSurrogate : (Code.ofNat low).isLowSurrogate = true := by
    rw [Code.isLowSurrogate, toNat_ofNat (by omega)]
    simpa using hlow
  have hhighSmall : high < 0x10000 := by omega
  have hlowSmall : low < 0x10000 := by omega
  have hbehind : ('\\' :: 'u' :: (Text.hexDigits 4 low ++ rest)).drop 6 = rest :=
    drop_hexDigits low rest
  have hnonempty : (rest.isEmpty) = false := by simpa using hrest
  rw [readUnicodeEscape]
  simp only [drop_hexDigits, List.isEmpty_cons, Bool.false_eq_true, if_false,
    hexCode?_hexDigits hhighSmall, hhighSurrogate, hbehind, hnonempty, Bool.not_false, Bool.true_and,
    List.take_succ_cons, List.take_zero, beq_self_eq_true, if_true, List.drop_succ_cons,
    List.drop_zero, hexCode?_hexDigits hlowSmall, hlowSurrogate]

/-- The halves of a pair make up the code that they were split from. -/
theorem pairCode_split (hbig : 0x10000 ≤ c.toNat) :
    pairCode (.ofNat (0xD800 + (c.toNat - 0x10000) / 0x400))
      (.ofNat (0xDC00 + (c.toNat - 0x10000) % 0x400)) = c := by
  have hlt := c.toNat_lt
  rw [pairCode, toNat_ofNat (by omega), toNat_ofNat (by omega)]
  have hvalue : 0x10000 + (0xD800 + (c.toNat - 0x10000) / 0x400 - 0xD800) * 0x400 +
      (0xDC00 + (c.toNat - 0x10000) % 0x400 - 0xDC00) = c.toNat := by
    omega
  rw [hvalue, ofNat_toNat]

/-! ## Codes of a string -/

/-- A code is written by a letter, as itself, by its number, or by the numbers of a pair. -/
theorem writtenCode_cases (hc : c.isSurrogate = false) :
    (∃ letter ch, c = .ofChar ch ∧ simpleEscape? letter = some ch ∧
      writtenCode c = ['\\', letter]) ∨
    (∃ ch : Char, c = .ofChar ch ∧ ch ≠ '\"' ∧ ch ≠ '\\' ∧ 0x20 ≤ ch.toNat ∧ ch.toNat < 0x7F ∧
      writtenCode c = [ch]) ∨
    (c.toNat < 0x10000 ∧ writtenCode c = Text.unitEscape c.toNat) ∨
    (0x10000 ≤ c.toNat ∧
      writtenCode c = Text.unitEscape (0xD800 + (c.toNat - 0x10000) / 0x400) ++
        Text.unitEscape (0xDC00 + (c.toNat - 0x10000) % 0x400)) := by
  generalize hwritten : writtenCode c = written
  unfold writtenCode at hwritten
  split at hwritten
  · next h => exact .inl ⟨'\"', _, h, rfl, hwritten.symm⟩
  split at hwritten
  · next h => exact .inl ⟨'\\', _, h, rfl, hwritten.symm⟩
  split at hwritten
  · next h => exact .inl ⟨'n', _, h, rfl, hwritten.symm⟩
  split at hwritten
  · next h => exact .inl ⟨'r', _, h, rfl, hwritten.symm⟩
  split at hwritten
  · next h => exact .inl ⟨'t', _, h, rfl, hwritten.symm⟩
  split at hwritten
  · next h => exact .inl ⟨'f', _, h, rfl, hwritten.symm⟩
  split at hwritten
  · next h => exact .inl ⟨'b', _, h, rfl, hwritten.symm⟩
  next hquote hbackslash _ _ _ _ _ =>
  split at hwritten
  · next hprintable =>
    rw [Bool.and_eq_true, decide_eq_true_eq, decide_eq_true_eq] at hprintable
    have hchar := (Code.ofChar_ofNat hc).symm
    generalize Char.ofNat c.toNat = ch at hchar hwritten
    subst hchar
    exact .inr (.inl ⟨ch, rfl, fun h => hquote (congrArg Code.ofChar h),
      fun h => hbackslash (congrArg Code.ofChar h), hprintable.1, hprintable.2, hwritten.symm⟩)
  split at hwritten
  · next hsmall => exact .inr (.inr (.inl ⟨hsmall, hwritten.symm⟩))
  · next hbig => exact .inr (.inr (.inr ⟨Nat.le_of_not_lt hbig, hwritten.symm⟩))

theorem readEscape_letter
    {letter ch : Char}
    (h : simpleEscape? letter = some ch) :
    readEscape opening (letter :: rest) = .ok (.ofChar ch, rest) := by
  unfold readEscape
  split
  · next hnone => cases hnone
  · next hnumber =>
    obtain ⟨rfl, -⟩ := List.cons.inj hnumber
    cases h
  · next hsome =>
    obtain ⟨rfl, rfl⟩ := List.cons.inj hsome
    rw [h]

theorem readCodes_escape
    {escape : List Char}
    (h : readEscape opening escape = .ok (c, rest)) :
    readCodes opening (fuel + 1) ('\\' :: escape) read =
      readCodes opening fuel rest (c :: read) := by
  simp [readCodes, h]

theorem readCodes_char
    {ch : Char}
    (hquote : ch ≠ '\"')
    (hbackslash : ch ≠ '\\')
    (hcontrol : 0x20 ≤ ch.toNat) :
    readCodes opening (fuel + 1) (ch :: rest) read =
      readCodes opening fuel rest (.ofChar ch :: read) := by
  rw [readCodes, if_neg hquote, if_neg hbackslash, if_neg (Nat.not_lt.mpr hcontrol)]

/-- The reader takes what a code is written as for the code. -/
theorem readCodes_writtenCode
    (hc : c.isSurrogate = false)
    (hrest : rest ≠ []) :
    readCodes opening (fuel + 1) (writtenCode c ++ rest) read =
      readCodes opening fuel rest (c :: read) := by
  rcases writtenCode_cases hc with ⟨letter, ch, rfl, hletter, hwritten⟩ |
    ⟨ch, rfl, hquote, hbackslash, hcontrol, -, hwritten⟩ | ⟨hsmall, hwritten⟩ | ⟨hbig, hwritten⟩
  · rw [hwritten]
    exact readCodes_escape (readEscape_letter hletter)
  · rw [hwritten]
    exact readCodes_char hquote hbackslash hcontrol
  · have hunit := readUnicodeEscape_unit hc hsmall hrest
    rw [hwritten]
    exact readCodes_escape ((readEscape_number _ _).trans hunit)
  · have hlt := c.toNat_lt
    have hhigh : 0xD800 ≤ 0xD800 + (c.toNat - 0x10000) / 0x400 ∧
        0xD800 + (c.toNat - 0x10000) / 0x400 < 0xDC00 := ⟨by omega, by omega⟩
    have hlow : 0xDC00 ≤ 0xDC00 + (c.toNat - 0x10000) % 0x400 ∧
        0xDC00 + (c.toNat - 0x10000) % 0x400 < 0xE000 := ⟨by omega, by omega⟩
    have hpair := readUnicodeEscape_pair hhigh hlow hrest
    rw [pairCode_split hbig] at hpair
    rw [hwritten]
    simp only [Text.unitEscape, List.cons_append, List.append_assoc]
    exact readCodes_escape ((readEscape_number _ _).trans hpair)

theorem length_writtenCode_pos (hc : c.isSurrogate = false) : 0 < (writtenCode c).length := by
  rcases writtenCode_cases hc with ⟨_, _, -, -, h⟩ | ⟨_, -, -, -, -, -, h⟩ | ⟨-, h⟩ | ⟨-, h⟩
  all_goals simp [h, Text.unitEscape]

/-- The reader gives back the codes of a written string, and what stands behind it. -/
theorem readCodes_written
    {cs : List Code}
    (hcs : ∀ c ∈ cs, c.isSurrogate = false)
    (hfuel : (cs.flatMap writtenCode).length < fuel) :
    readCodes opening fuel (cs.flatMap writtenCode ++ '\"' :: rest) read =
      .ok (⟨read.reverse ++ cs⟩, rest) := by
  induction cs generalizing fuel read with
  | nil =>
    obtain ⟨fuel, rfl⟩ : ∃ n, fuel = n + 1 := Nat.exists_eq_add_one.mpr (by omega)
    simp [readCodes]
  | cons c cs ih =>
    have hc := hcs c List.mem_cons_self
    have hpos := length_writtenCode_pos hc
    rw [List.flatMap_cons, List.length_append] at hfuel
    obtain ⟨fuel, rfl⟩ : ∃ n, fuel = n + 1 := Nat.exists_eq_add_one.mpr (by omega)
    rw [List.flatMap_cons, List.append_assoc, readCodes_writtenCode hc (by simp),
      ih (fun c hc => hcs c (List.mem_cons_of_mem _ hc)) (by omega)]
    simp

/-- A written string is read back. -/
theorem readString_written
    {missing : Flaw}
    (ht : t.IsUnicode)
    (hfuel : (writtenString t).length ≤ fuel + 1) :
    readString fuel missing (writtenString t ++ rest) = .ok (t, rest) := by
  rw [writtenString, List.length_append, List.length_cons, List.length_singleton] at hfuel
  rw [writtenString, List.append_assoc, List.cons_append, List.singleton_append, readString,
    readCodes_written ht (by omega)]
  rfl

end ClusterLineage.Json
