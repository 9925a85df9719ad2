/-!
# Texts

A text is a list of codes.  Besides the characters of Unicode it can hold surrogates, the halves of
pairs, which data can name one by one: they are no characters, but they tell two names apart.  Texts
are ordered by their codes.
-/

namespace ClusterLineage

/-- A code of Unicode: that of a character, or a surrogate. -/
structure Code where
  toNat : Nat
  toNat_lt : toNat < 0x110000
  deriving DecidableEq, Repr

namespace Code

/-- The code of a character. -/
def ofChar (c : Char) : Code where
  toNat := c.toNat
  toNat_lt := by
    have h : c.toNat < 0xD800 ∨ 0xDFFF < c.toNat ∧ c.toNat < 0x110000 := c.valid
    omega

instance : Coe Char Code := ⟨ofChar⟩

/-- The code with a number.  Past the last code it is that of the replacement character. -/
def ofNat (n : Nat) : Code :=
  if h : n < 0x110000 then ⟨n, h⟩ else '\uFFFD'

/-- Whether the code is the first half of a pair. -/
def isHighSurrogate (c : Code) : Bool :=
  0xD800 ≤ c.toNat && c.toNat < 0xDC00

/-- Whether the code is the second half of a pair. -/
def isLowSurrogate (c : Code) : Bool :=
  0xDC00 ≤ c.toNat && c.toNat < 0xE000

/-- Whether the code is half of a pair, and so no character. -/
def isSurrogate (c : Code) : Bool :=
  c.isHighSurrogate || c.isLowSurrogate

/-- The character of a code, unless it is a surrogate. -/
def toChar? (c : Code) : Option Char :=
  if c.isSurrogate then none else some (Char.ofNat c.toNat)

@[simp]
theorem toNat_ofChar (c : Char) : (ofChar c).toNat = c.toNat := rfl

/-- The code of a character is no surrogate. -/
theorem isSurrogate_ofChar (c : Char) : (ofChar c).isSurrogate = false := by
  have h : c.toNat < 0xD800 ∨ 0xDFFF < c.toNat ∧ c.toNat < 0x110000 := c.valid
  rw [Bool.eq_false_iff]
  simp only [ne_eq, isSurrogate, isHighSurrogate, isLowSurrogate, Bool.or_eq_true,
    Bool.and_eq_true, decide_eq_true_eq]
  rw [toNat_ofChar]
  omega

/-- A character is known by its code. -/
theorem toChar?_ofChar (c : Char) : (ofChar c).toChar? = some c := by
  simp [toChar?, isSurrogate_ofChar]

theorem ofChar_inj {c d : Char} : ofChar c = ofChar d ↔ c = d := by
  refine ⟨fun h => ?_, congrArg ofChar⟩
  have hsome := congrArg toChar? h
  rwa [toChar?_ofChar, toChar?_ofChar, Option.some.injEq] at hsome

end Code

/-- A text. -/
structure Text where
  codes : List Code
  deriving DecidableEq, Repr, Inhabited

namespace Text

/-- A string as a text. -/
def ofString (s : String) : Text :=
  ⟨s.toList.map Code.ofChar⟩

instance : Coe String Text := ⟨ofString⟩

theorem ofString_inj {s t : String} : ofString s = ofString t ↔ s = t := by
  rw [ofString, ofString, mk.injEq, List.map_inj_right fun _ _ => Code.ofChar_inj.mp,
    String.toList_inj]

/-- Strings as texts. -/
def ofStrings (ss : List String) : List Text :=
  ss.map ofString

/-- Whether a text has no codes. -/
def isEmpty (t : Text) : Bool :=
  t.codes.isEmpty

/-- One text after another. -/
def append (s t : Text) : Text :=
  ⟨s.codes ++ t.codes⟩

instance : Append Text := ⟨append⟩

@[simp]
theorem codes_append (s t : Text) : (s ++ t).codes = s.codes ++ t.codes := rfl

/-- Texts one after another. -/
def join (ts : List Text) : Text :=
  ⟨ts.flatMap codes⟩

/-- Texts one after another, with a separator between them. -/
def intercalate (separator : Text) (ts : List Text) : Text :=
  ⟨separator.codes.intercalate (ts.map codes)⟩

/-- The text that is given, unless it is empty. -/
def proper? (t : Option Text) : Option Text :=
  t.filter (!·.isEmpty)

/-- Whether some codes come before others or are the same: the first code in which they differ
decides. -/
def codesLe : List Code → List Code → Bool
  | [], _ => true
  | _ :: _, [] => false
  | a :: as, b :: bs => a.toNat < b.toNat || (a == b && codesLe as bs)

/-- Whether a text comes before another or is the same. -/
def le (s t : Text) : Bool :=
  codesLe s.codes t.codes

theorem codesLe_refl (as : List Code) : codesLe as as = true := by
  induction as with
  | nil => rfl
  | cons a as ih => simp [codesLe, ih]

theorem codesLe_total (as bs : List Code) : codesLe as bs = true ∨ codesLe bs as = true := by
  induction as generalizing bs with
  | nil => exact .inl rfl
  | cons a as ih =>
    cases bs with
    | nil => exact .inr rfl
    | cons b bs =>
      rcases Nat.lt_trichotomy a.toNat b.toNat with h | h | h
      · exact .inl (by simp [codesLe, h])
      · obtain rfl : a = b := by cases a; cases b; simpa using h
        simpa [codesLe] using ih bs
      · exact .inr (by simp [codesLe, h])

theorem codesLe_trans {as bs cs : List Code} (hab : codesLe as bs = true)
    (hbc : codesLe bs cs = true) : codesLe as cs = true := by
  induction as generalizing bs cs with
  | nil => rfl
  | cons a as ih =>
    cases bs with
    | nil => simp [codesLe] at hab
    | cons b bs =>
      cases cs with
      | nil => simp [codesLe] at hbc
      | cons c cs =>
        simp only [codesLe, Bool.or_eq_true, Bool.and_eq_true, decide_eq_true_eq,
          beq_iff_eq] at hab hbc ⊢
        rcases hab with hab | ⟨rfl, hab⟩ <;> rcases hbc with hbc | ⟨rfl, hbc⟩
        · exact .inl (Nat.lt_trans hab hbc)
        · exact .inl hab
        · exact .inl hbc
        · exact .inr ⟨rfl, ih hab hbc⟩

theorem codesLe_antisymm {as bs : List Code} (hab : codesLe as bs = true)
    (hba : codesLe bs as = true) : as = bs := by
  induction as generalizing bs with
  | nil =>
    cases bs with
    | nil => rfl
    | cons b bs => simp [codesLe] at hba
  | cons a as ih =>
    cases bs with
    | nil => simp [codesLe] at hab
    | cons b bs =>
      simp only [codesLe, Bool.or_eq_true, Bool.and_eq_true, decide_eq_true_eq,
        beq_iff_eq] at hab hba
      rcases hab with hab | ⟨rfl, hab⟩
      · rcases hba with hba | ⟨rfl, _⟩ <;> omega
      · rcases hba with hba | ⟨-, hba⟩
        · omega
        · rw [ih hab hba]

theorem le_total (s t : Text) : s.le t = true ∨ t.le s = true :=
  codesLe_total s.codes t.codes

theorem le_trans {s t u : Text} (hst : s.le t = true) (htu : t.le u = true) : s.le u = true :=
  codesLe_trans hst htu

/-- Each of two texts that come before each other is the other. -/
theorem le_antisymm {s t : Text} (hst : s.le t = true) (hts : t.le s = true) : s = t := by
  cases s
  cases t
  exact congrArg mk (codesLe_antisymm hst hts)

end Text

end ClusterLineage
