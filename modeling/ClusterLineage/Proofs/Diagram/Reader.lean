import ClusterLineage.Text.Basic
import Mathlib.Algebra.BigOperators.Group.List.Basic
import Mathlib.Data.Nat.Digits.Defs

/-!
# Readers

A reader takes what it understands from the front of some codes, and leaves the rest.  Readers for
a diagram are put together from a few parts: fixed texts, a choice of texts, runs of codes, numbers,
and statements as long as there are any.  For each part there is one fact, that it reads what has
been written whatever comes after it.  A run or a number also needs to be told apart from what
follows, so its fact is about the part together with the next one.
-/

namespace ClusterLineage

/-- A reader takes something from the front of some codes, or fails. -/
abbrev Reader := StateT (List Code) Option

namespace Reader

variable {α β : Type}

/-- Reads a text and nothing else. -/
def literal (t : Text) : Reader Unit := fun cs =>
  (cs.dropPrefix? t.codes).map ((), ·)

/-- Reads one of some texts, the first that fits, for what it stands for. -/
def oneOf (options : List (Text × α)) : Reader α := fun cs =>
  options.findSome? fun o => (cs.dropPrefix? o.1.codes).map (o.2, ·)

/-- Reads all codes that pass a test, up to the first that does not. -/
def span (test : Code → Bool) : Reader (List Code) := fun cs =>
  some (cs.takeWhile test, cs.dropWhile test)

/-- Whether a code is a decimal digit. -/
def isDigit (c : Code) : Bool :=
  c.toChar?.any Char.isDigit

/-- Reads a decimal number, with all digits that come first. -/
def number : Reader Nat := do
  let digits ← span isDigit
  if digits.isEmpty then failure
  return Nat.ofDigitChars 10 (digits.filterMap Code.toChar?) 0

/-- Reads so many times, or until it fails. -/
def upTo (p : Reader α) : Nat → Reader (List α)
  | 0, cs => some ([], cs)
  | n + 1, cs =>
    match p cs with
    | none => some ([], cs)
    | some (a, rest) => (upTo p n rest).map fun (as, rest) => (a :: as, rest)

/-- Reads until it fails, which it does at the latest when all codes are gone. -/
def many (p : Reader α) : Reader (List α) := fun cs =>
  upTo p cs.length cs

/-- What is read if nothing is left. -/
def readAll (p : Reader α) (t : Text) : Option α :=
  match p t.codes with
  | some (a, []) => some a
  | _ => none

/-- A reader understands some codes, whatever comes after them. -/
def Reads (p : Reader α) (s : List Code) (a : α) : Prop :=
  ∀ rest, p (s ++ rest) = some (a, rest)

variable {p : Reader α} {f : α → Reader β} {s t u : List Code} {a : α} {b : β}

/-! ## One after the other -/

theorem bind_of_eq_some (hp : p s = some (a, t)) : (p >>= f) s = f a t := by
  change (p s).bind (fun x => f x.1 x.2) = f a t
  rw [hp, Option.bind_some]

theorem bind_of_eq_none (hp : p s = none) : (p >>= f) s = none := by
  change (p s).bind (fun x => f x.1 x.2) = none
  rw [hp, Option.bind_none]

theorem reads_pure (a : α) : Reads (pure a) [] a :=
  fun _ => rfl

theorem Reads.bind
    (hp : Reads p s a)
    (hf : Reads (f a) t b) :
    Reads (p >>= f) (s ++ t) b := by
  intro rest
  rw [List.append_assoc, bind_of_eq_some (hp _), hf]

/-- The last part of a statement. -/
theorem Reads.bind_pure
    (hp : Reads p s a)
    (hf : f a = pure b) :
    Reads (p >>= f) s b := by
  rw [← List.append_nil s]
  exact hp.bind (hf ▸ reads_pure b)

theorem readAll_eq_some {t : Text} (hp : Reads p t.codes a) : readAll p t = some a := by
  have h := hp []
  rw [List.append_nil] at h
  rw [readAll, h]

/-! ## Texts -/

theorem reads_literal (t : Text) : Reads (literal t) t.codes () := by
  intro rest
  rw [literal, List.dropPrefix?_append_of_beq rest (beq_self_eq_true t.codes), Option.map_some]

/-- Two lists of codes differ where both have one, so nothing starts with both. -/
def clash : List Code → List Code → Bool
  | a :: as, b :: bs => a != b || clash as bs
  | _, _ => false

theorem dropPrefix?_eq_none_of_clash (h : clash s t = true) (rest : List Code) :
    (t ++ rest).dropPrefix? s = none := by
  induction s generalizing t with
  | nil => simp [clash] at h
  | cons c s ih =>
    cases t with
    | nil => simp [clash] at h
    | cons d t =>
      rw [clash, Bool.or_eq_true, bne_iff_ne] at h
      rw [List.cons_append, List.dropPrefix?]
      by_cases hcd : d = c
      · rw [if_pos (beq_iff_eq.mpr hcd), ih (h.resolve_left fun hne => hne hcd.symm)]
      · rw [if_neg (by rwa [beq_iff_eq])]

theorem literal_eq_none {t : Text} (h : clash t.codes s = true) (rest : List Code) :
    literal t (s ++ rest) = none := by
  rw [literal, dropPrefix?_eq_none_of_clash h, Option.map_none]

/-- No text of a choice can be mistaken for another one. -/
def Distinct (options : List (Text × α)) : Prop :=
  options.Pairwise fun o o' => clash o.1.codes o'.1.codes = true

instance (options : List (Text × α)) : Decidable (Distinct options) :=
  inferInstanceAs (Decidable (List.Pairwise _ _))

theorem reads_oneOf
    {options : List (Text × α)}
    {t : Text}
    (hdistinct : Distinct options)
    (ht : (t, a) ∈ options) :
    Reads (oneOf options) t.codes a := by
  intro rest
  induction options with
  | nil => exact absurd ht List.not_mem_nil
  | cons o options ih =>
    obtain ⟨hhead, htail⟩ := List.pairwise_cons.mp hdistinct
    rw [oneOf, List.findSome?_cons]
    obtain heq | ht := List.mem_cons.mp ht
    · rw [← heq]
      rw [List.dropPrefix?_append_of_beq rest (beq_self_eq_true t.codes), Option.map_some]
    · rw [dropPrefix?_eq_none_of_clash (hhead _ ht), Option.map_none]
      exact ih htail ht

/-! ## Runs and numbers -/

/-- What follows a run starts with a code that does not belong to it. -/
theorem span_eq
    {test : Code → Bool}
    (hs : ∀ c ∈ s, test c = true)
    (ht : t.head?.any (!test ·) = true)
    (rest : List Code) :
    span test (s ++ (t ++ rest)) = some (s, t ++ rest) := by
  cases t with
  | nil => simp at ht
  | cons c t =>
    have hc : test c = false := by simpa using ht
    rw [span, List.takeWhile_append_of_pos hs, List.dropWhile_append_of_pos hs, List.cons_append,
      List.takeWhile_cons_of_neg (by rw [hc]; exact Bool.false_ne_true),
      List.dropWhile_cons_of_neg (by rw [hc]; exact Bool.false_ne_true), List.append_nil]

theorem reads_span_bind
    {test : Code → Bool}
    {f : List Code → Reader β}
    (hs : ∀ c ∈ s, test c = true)
    (ht : t.head?.any (!test ·) = true)
    (hf : Reads (f s) (t ++ u) b) :
    Reads (span test >>= f) (s ++ (t ++ u)) b := by
  intro rest
  have hspan : span test (s ++ (t ++ u) ++ rest) = some (s, t ++ u ++ rest) := by
    rw [List.append_assoc, List.append_assoc, span_eq hs ht]
  rw [bind_of_eq_some hspan, hf]

theorem isDigit_ofChar (c : Char) : isDigit (Code.ofChar c) = c.isDigit := by
  rw [isDigit, Code.toChar?_ofChar, Option.any_some]

theorem codes_toString (n : Nat) :
    (Text.ofString (toString n)).codes = (Nat.toDigits 10 n).map Code.ofChar := by
  rw [Nat.toString_eq_ofList_toDigits, Text.ofString, String.toList_ofList]

/-- A number ends where a code follows that is no digit. -/
theorem reads_number_bind
    {n : Nat}
    {f : Nat → Reader β}
    (ht : t.head?.any (!isDigit ·) = true)
    (hf : Reads (f n) (t ++ u) b) :
    Reads (number >>= f) ((Text.ofString (toString n)).codes ++ (t ++ u)) b := by
  have hdigits : ∀ c ∈ (Text.ofString (toString n)).codes, isDigit c = true := by
    intro c hc
    rw [codes_toString] at hc
    obtain ⟨d, hd, rfl⟩ := List.mem_map.mp hc
    rw [isDigit_ofChar]
    exact Nat.isDigit_of_mem_toDigits (by decide) (by decide) hd
  have hsome : ¬(Text.ofString (toString n)).codes.isEmpty := by
    rw [codes_toString, List.isEmpty_map, List.isEmpty_iff]
    exact Nat.toDigits_ne_nil
  have hvalue :
      Nat.ofDigitChars 10 ((Text.ofString (toString n)).codes.filterMap Code.toChar?) 0 = n := by
    rw [codes_toString, List.filterMap_map]
    simp only [Function.comp_def, Code.toChar?_ofChar, List.filterMap_some]
    exact Nat.ofDigitChars_ten_toDigits
  rw [number, bind_assoc]
  refine reads_span_bind hdigits ht ?_
  rw [if_neg hsome, hvalue, pure_bind]
  exact hf

/-! ## Statements -/

variable {γ : Type} {xs : List γ} {write : γ → List Code} {value : γ → α}

theorem upTo_eq
    (hp : ∀ x, Reads p (write x) (value x))
    (hstop : p t = none)
    {n : Nat}
    (hn : xs.length ≤ n) :
    upTo p n (xs.flatMap write ++ t) = some (xs.map value, t) := by
  induction xs generalizing n with
  | nil =>
    cases n with
    | zero => rfl
    | succ n => rw [List.flatMap_nil, List.nil_append, upTo, hstop, List.map_nil]
  | cons x xs ih =>
    cases n with
    | zero => simp at hn
    | succ n =>
      rw [List.flatMap_cons, List.append_assoc, upTo, hp]
      dsimp only
      rw [ih (Nat.le_of_succ_le_succ hn), Option.map_some, List.map_cons]

/-- Statements are read one by one, up to a text that is none. -/
theorem reads_many_bind
    {f : List α → Reader β}
    (hp : ∀ x, Reads p (write x) (value x))
    (hstop : ∀ rest, p (t ++ rest) = none)
    (hf : Reads (f (xs.map value)) t b) :
    Reads (many p >>= f) (xs.flatMap write ++ t) b := by
  intro rest
  have hwrite (x : γ) : write x ≠ [] := by
    intro hx
    have hread := hp x (t ++ rest)
    rw [hx, List.nil_append, hstop] at hread
    contradiction
  have hlength : xs.length ≤ (xs.flatMap write ++ t ++ rest).length := by
    have hsum := List.length_le_sum_of_one_le (xs.map fun x => (write x).length) (by
      intro n hn
      obtain ⟨x, -, rfl⟩ := List.mem_map.mp hn
      exact List.length_pos_iff.mpr (hwrite x))
    rw [List.length_map] at hsum
    rw [List.length_append, List.length_append, List.length_flatMap]
    omega
  have hmany :
      many p (xs.flatMap write ++ t ++ rest) = some (xs.map value, t ++ rest) := by
    rw [many]
    generalize (xs.flatMap write ++ t ++ rest).length = n at hlength
    rw [List.append_assoc]
    exact upTo_eq hp (hstop _) hlength
  rw [bind_of_eq_some hmany, hf]

end Reader

end ClusterLineage
