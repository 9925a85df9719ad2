import ClusterLineage.Proofs.Text.Unicode
import ClusterLineage.Text.ControlSequence
import ClusterLineage.Text.Encoded
import ClusterLineage.Text.Lines
import ClusterLineage.Text.Utf8
import Mathlib.Data.List.TakeDrop
import Mathlib.Data.List.TakeWhile

/-!
# Texts as bytes and back

A text without surrogates is encoded as the string that it is.  Control sequences are taken out of
each line of a text apart, since no sequence goes beyond the end of a line.  What is written in
ASCII, without control characters but line feeds, passes through everything between a program that
prints it and one that reads it: no control sequence is taken out of it, its bytes are its
characters, and its line ends stay as they are.
-/

namespace ClusterLineage.Text

variable {t : Text}

/-! ## Strings -/

theorem ofString_append (s t : String) : ofString (s ++ t) = ofString s ++ ofString t := by
  change (⟨_⟩ : Text) = ⟨_⟩
  rw [String.toList_append, List.map_append]
  rfl

theorem encode_ofString (s : String) : (ofString s).encode = .ok s := by
  have hcharacters : ∀ c ∈ (ofString s).codes, (!c.isSurrogate) = true := by
    intro c hc
    rw [isUnicode_ofString s c hc, Bool.not_false]
  have hspan : (ofString s).codes.span (!·.isSurrogate) = ((ofString s).codes, []) := by
    rw [List.span_eq_takeWhile_dropWhile, List.takeWhile_eq_self_iff.mpr hcharacters,
      List.dropWhile_eq_nil_iff.mpr hcharacters]
  have hchars : (ofString s).codes.filterMap Code.toChar? = s.toList := by
    rw [ofString, List.filterMap_map, Function.comp_def]
    simp only [Code.toChar?_ofChar, List.filterMap_some]
  rw [encode, hspan]
  dsimp only
  rw [hchars, String.ofList_toList]

/-- A text without surrogates is a string. -/
theorem IsUnicode.exists_eq_ofString (ht : t.IsUnicode) : ∃ s, t = ofString s := by
  refine ⟨String.ofList (t.codes.map fun c => Char.ofNat c.toNat), ?_⟩
  have hcodes : t.codes.map (fun c => Code.ofChar (Char.ofNat c.toNat)) = t.codes.map id :=
    List.map_congr_left fun c hc => Code.ofChar_ofNat (ht c hc)
  rw [ofString, String.toList_ofList, List.map_map, Function.comp_def, hcodes, List.map_id]

/-! ## Control sequences -/

theorem afterControlSequence?_of_ne_escape
    {c : Code} {cs : List Code}
    (hc : c ≠ '\x1b') :
    afterControlSequence? (c :: cs) = none := by
  have hintroducer : afterIntroducer? (c :: cs) = none := by
    cases cs with
    | nil => rfl
    | cons d cs => simp [afterIntroducer?, hc]
  rw [afterControlSequence?, hintroducer]

theorem dropControlSequences_cons_of_eq_none
    {c : Code} {cs : List Code}
    (h : afterControlSequence? (c :: cs) = none) :
    dropControlSequences (c :: cs) = c :: dropControlSequences cs := by
  rw [dropControlSequences]
  split
  · next hsome => simp [h] at hsome
  · rfl

theorem dropControlSequences_cons_of_eq_some
    {c : Code} {cs rest : List Code}
    (h : afterControlSequence? (c :: cs) = some rest) :
    dropControlSequences (c :: cs) = dropControlSequences rest := by
  rw [dropControlSequences]
  split
  · next hsome => rw [Option.some.inj (h.symm.trans hsome)]
  · next hnone => simp [h] at hnone

/-- Only an escape character starts a control sequence. -/
theorem dropControlSequences_eq_self
    {cs : List Code}
    (hcs : Code.ofChar '\x1b' ∉ cs) :
    dropControlSequences cs = cs := by
  induction cs with
  | nil => rw [dropControlSequences]
  | cons c cs ih =>
    rw [List.mem_cons, not_or] at hcs
    have hnone : afterControlSequence? (c :: cs) = none :=
      afterControlSequence?_of_ne_escape (Ne.symm hcs.1)
    rw [dropControlSequences_cons_of_eq_none hnone, ih hcs.2]

theorem suffix_of_afterIntroducer?
    {cs rest : List Code}
    (h : afterIntroducer? cs = some rest) :
    rest <:+ cs := by
  unfold afterIntroducer? at h
  split at h
  · next c d tail =>
    split at h
    · obtain rfl := Option.some.inj h
      exact ⟨[c, d], rfl⟩
    · cases h
  · cases h

/-- What follows a control sequence was there before. -/
theorem suffix_of_afterControlSequence?
    {cs rest : List Code}
    (h : afterControlSequence? cs = some rest) :
    rest <:+ cs := by
  unfold afterControlSequence? at h
  split at h
  · cases h
  · next body hbody =>
    have hend : (body.dropWhile isParameter).dropWhile isIntermediate <:+ cs :=
      ((List.dropWhile_suffix _).trans (List.dropWhile_suffix _)).trans
        (suffix_of_afterIntroducer? hbody)
    split at h
    · next c tail htail =>
      split at h
      · obtain rfl := Option.some.inj h
        rw [htail] at hend
        exact (List.suffix_cons c tail).trans hend
      · cases h
    · cases h

theorem sublist_dropControlSequences (cs : List Code) :
    (dropControlSequences cs).Sublist cs := by
  fun_induction dropControlSequences cs with
  | case1 => exact List.Sublist.refl []
  | case2 c cs rest hrest ih => exact ih.trans (suffix_of_afterControlSequence? hrest).sublist
  | case3 c cs hnone ih => exact ih.cons_cons c

/-- What a run of a class leaves of some codes is the same before a code outside the class. -/
theorem dropWhile_append_cons
    {p : Code → Bool} {c : Code}
    (hc : p c = false)
    (cs rest : List Code) :
    (cs ++ c :: rest).dropWhile p = cs.dropWhile p ++ c :: rest := by
  induction cs with
  | nil => exact List.dropWhile_cons_of_neg (by simp [hc])
  | cons d cs ih =>
    rw [List.cons_append, List.dropWhile_cons, List.dropWhile_cons]
    split
    · exact ih
    · rfl

theorem afterIntroducer?_append_lineFeed (cs rest : List Code) :
    afterIntroducer? (cs ++ Code.ofChar '\n' :: rest) =
      (afterIntroducer? cs).map (· ++ Code.ofChar '\n' :: rest) := by
  match cs with
  | [] =>
    cases rest with
    | nil => rfl
    | cons d rest => rfl
  | [c] =>
    have hbracket : Code.ofChar '\n' ≠ Code.ofChar '[' := by decide
    simp [afterIntroducer?, hbracket]
  | c :: d :: cs =>
    simp only [List.cons_append, afterIntroducer?]
    split
    · rfl
    · rfl

/-- A line feed is in no control sequence, so one ends before it or has no end. -/
theorem afterControlSequence?_append_lineFeed (cs rest : List Code) :
    afterControlSequence? (cs ++ Code.ofChar '\n' :: rest) =
      (afterControlSequence? cs).map (· ++ Code.ofChar '\n' :: rest) := by
  unfold afterControlSequence?
  rw [afterIntroducer?_append_lineFeed]
  cases afterIntroducer? cs with
  | none => rfl
  | some body =>
    have hparameter : isParameter (Code.ofChar '\n') = false := by decide
    have hintermediate : isIntermediate (Code.ofChar '\n') = false := by decide
    simp only [Option.map_some, dropWhile_append_cons hparameter,
      dropWhile_append_cons hintermediate]
    cases (body.dropWhile isParameter).dropWhile isIntermediate with
    | nil => rfl
    | cons c tail =>
      simp only [List.cons_append]
      split
      · rfl
      · rfl

/-- Control sequences can be taken out line by line. -/
theorem dropControlSequences_append_lineFeed (cs rest : List Code) :
    dropControlSequences (cs ++ Code.ofChar '\n' :: rest) =
      dropControlSequences cs ++ Code.ofChar '\n' :: dropControlSequences rest := by
  fun_induction dropControlSequences cs with
  | case1 =>
    exact dropControlSequences_cons_of_eq_none (afterControlSequence?_of_ne_escape (by decide))
  | case2 c cs after hafter ih =>
    have hsome := afterControlSequence?_append_lineFeed (c :: cs) rest
    rw [hafter, Option.map_some, List.cons_append] at hsome
    rw [List.cons_append, dropControlSequences_cons_of_eq_some hsome, ih]
  | case3 c cs hnone ih =>
    have hnone' := afterControlSequence?_append_lineFeed (c :: cs) rest
    rw [hnone, Option.map_none, List.cons_append] at hnone'
    rw [List.cons_append, dropControlSequences_cons_of_eq_none hnone', ih, List.cons_append]

theorem withoutControlSequences_eq_self (ht : Code.ofChar '\x1b' ∉ t.codes) :
    t.withoutControlSequences = t := by
  rw [withoutControlSequences, dropControlSequences_eq_self ht]

theorem withoutControlSequences_line_append (s t : Text) :
    (s ++ ofString "\n" ++ t).withoutControlSequences =
      (s ++ ofString "\n").withoutControlSequences ++ t.withoutControlSequences := by
  have hline : dropControlSequences (s.codes ++ [Code.ofChar '\n']) =
      dropControlSequences s.codes ++ [Code.ofChar '\n'] := by
    rw [dropControlSequences_append_lineFeed, dropControlSequences]
  have hlines : dropControlSequences ((s.codes ++ [Code.ofChar '\n']) ++ t.codes) =
      (dropControlSequences s.codes ++ [Code.ofChar '\n']) ++ dropControlSequences t.codes := by
    rw [List.append_assoc, List.singleton_append, dropControlSequences_append_lineFeed,
      List.append_assoc, List.singleton_append]
  rw [← hline] at hlines
  exact congrArg Text.mk hlines

theorem IsUnicode.withoutControlSequences (ht : t.IsUnicode) :
    t.withoutControlSequences.IsUnicode :=
  fun c hc => ht c ((sublist_dropControlSequences t.codes).subset hc)

/-! ## Bytes -/

/-- The bytes of ASCII characters are their codes. -/
theorem toList_toUTF8_ofList
    {cs : List Char}
    (hcs : ∀ c ∈ cs, c.toNat < 0x80) :
    (String.ofList cs).toUTF8.data.toList = cs.map fun c => UInt8.ofNat c.toNat := by
  rw [String.toUTF8_eq_toByteArray, String.toByteArray_ofList]
  induction cs with
  | nil => rfl
  | cons c cs ih =>
    obtain ⟨hc, hcs⟩ := List.forall_mem_cons.mp hcs
    have hsize : c.utf8Size = 1 := by
      rw [Char.utf8Size_eq_one_iff, UInt32.le_iff_toNat_le]
      exact Nat.le_of_lt_succ hc
    rw [List.utf8Encode_cons, List.utf8Encode_singleton, String.utf8EncodeChar_eq_singleton hsize,
      ByteArray.data_append, Array.toList_append, ih hcs]
    rfl

/-- The reader of bytes takes those below 128 for characters. -/
theorem decodeUtf8From_ascii
    {cs : List Char}
    (hcs : ∀ c ∈ cs, c.toNat < 0x80)
    (position : Nat) (read : List Char) :
    decodeUtf8From position (cs.map fun c => UInt8.ofNat c.toNat) read =
      .ok (read.reverse ++ cs) := by
  induction cs generalizing position read with
  | nil => rw [List.map_nil, decodeUtf8From, List.append_nil]
  | cons c cs ih =>
    obtain ⟨hc, hcs⟩ := List.forall_mem_cons.mp hcs
    have htoNat : (UInt8.ofNat c.toNat).toNat = c.toNat := by
      rw [UInt8.toNat_ofNat', Nat.mod_eq_of_lt (by omega)]
    have hbyte : UInt8.ofNat c.toNat < 0x80 := by
      rw [UInt8.lt_iff_toNat_lt, htoNat]
      exact hc
    rw [List.map_cons, decodeUtf8From, if_pos hbyte, htoNat, Char.ofNat_toNat, ih hcs]
    simp

/-- Line ends without carriage returns stay as they are. -/
theorem unifyLineEnds_eq_self
    {cs : List Char}
    (hcs : '\r' ∉ cs) :
    unifyLineEnds cs = cs := by
  induction cs with
  | nil => rfl
  | cons c cs ih =>
    rw [List.mem_cons, not_or] at hcs
    rw [unifyLineEnds, if_neg (Ne.symm hcs.1), ih hcs.2]
    rintro rest rfl
    exact absurd rfl hcs.1

end ClusterLineage.Text
