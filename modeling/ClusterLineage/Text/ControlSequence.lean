import ClusterLineage.Text.Basic

/-!
# Terminal control sequences

An escape character and an opening bracket start a sequence that steers a terminal: after them come
parameters, then intermediate characters, and at last one final character.  `dropControlSequences`
takes the sequences out in one pass from the start: the start of a sequence that has no end stays,
and what comes to stand together where a sequence was is not looked at again.
-/

namespace ClusterLineage.Text

/-- Whether a code can be a parameter of a control sequence. -/
def isParameter (c : Code) : Bool :=
  0x30 ≤ c.toNat && c.toNat ≤ 0x3F

/-- Whether a code can stand between the parameters and the end of a control sequence. -/
def isIntermediate (c : Code) : Bool :=
  0x20 ≤ c.toNat && c.toNat ≤ 0x2F

/-- Whether a code can end a control sequence. -/
def isFinal (c : Code) : Bool :=
  0x40 ≤ c.toNat && c.toNat ≤ 0x7E

/-- What follows the two characters that start a control sequence, if some codes start with
them. -/
def afterIntroducer? : List Code → Option (List Code)
  | escape :: bracket :: rest => if escape = '\x1b' && bracket = '[' then some rest else none
  | _ => none

/-- What follows the control sequence that some codes start with. -/
def afterControlSequence? (cs : List Code) : Option (List Code) :=
  match afterIntroducer? cs with
  | none => none
  | some rest =>
    match (rest.dropWhile isParameter).dropWhile isIntermediate with
    | c :: rest => if isFinal c then some rest else none
    | [] => none

/-- A control sequence takes up codes. -/
theorem length_lt_of_afterControlSequence? {cs rest : List Code}
    (h : afterControlSequence? cs = some rest) : rest.length < cs.length := by
  unfold afterControlSequence? at h
  split at h
  · simp at h
  · next body hbody =>
    have hlt : body.length < cs.length := by
      unfold afterIntroducer? at hbody
      split at hbody
      · split at hbody
        · cases hbody
          simp only [List.length_cons]
          omega
        · simp at hbody
      · simp at hbody
    have hle : ((body.dropWhile isParameter).dropWhile isIntermediate).length ≤ body.length :=
      Nat.le_trans (List.dropWhile_suffix _).length_le (List.dropWhile_suffix _).length_le
    split at h
    · next c tail htail =>
      split at h
      · cases h
        simp only [htail, List.length_cons] at hle
        omega
      · simp at h
    · simp at h

/-- Codes without the control sequences that are met from the first code on. -/
def dropControlSequences : List Code → List Code
  | [] => []
  | c :: cs =>
    match _h : afterControlSequence? (c :: cs) with
    | some rest => dropControlSequences rest
    | none => c :: dropControlSequences cs
  termination_by cs => cs.length
  decreasing_by
    · exact length_lt_of_afterControlSequence? _h
    · simp

/-- A text without the control sequences that are met from its start on. -/
def withoutControlSequences (t : Text) : Text :=
  ⟨dropControlSequences t.codes⟩

end ClusterLineage.Text
