import ClusterLineage.Proofs.Json.Strings

/-!
# Written values are read back

A value of strings, switches and nothings, in arrays and objects as deep as the reader goes, is read
back from the lines that it is written on.  The reader needs fuel for two steps per character, and it
reads a value up to its end, whatever stands behind it.
-/

namespace ClusterLineage.Json

variable {limits : Limits} {depth fuel level outer : Nat} {rest cs : List Char} {j x : Json}
  {xs : List Json} {name : Text} {ms read : List (Text × Json)}

/-- A value without numbers or surrogates, in which no more than so many arrays and objects lie
within each other and no object has two members of the same name. -/
inductive Plain : Nat → Json → Prop where
  | null {depth : Nat} : Plain depth .null
  | bool {depth : Nat} (b : Bool) : Plain depth (.bool b)
  | str {depth : Nat} {s : Text} (hs : s.IsUnicode) : Plain depth (.str s)
  | arr {depth : Nat} {xs : List Json} (hxs : ∀ x ∈ xs, Plain depth x) :
    Plain (depth + 1) (.arr xs)
  | obj {depth : Nat} {ms : List (Text × Json)}
    (hnames : ∀ m ∈ ms, m.1.IsUnicode)
    (hvalues : ∀ m ∈ ms, Plain depth m.2)
    (hnodup : (ms.map Prod.fst).Nodup) :
    Plain (depth + 1) (.obj ms)

/-! ## Blanks -/

theorem skipBlanks_newLine (level : Nat) (cs : List Char) :
    skipBlanks (newLine level ++ cs) = skipBlanks cs := by
  apply List.dropWhile_append_of_pos
  intro c hc
  rw [newLine, List.mem_cons, List.mem_replicate] at hc
  rcases hc with rfl | ⟨-, rfl⟩
  all_goals rfl

theorem skipBlanks_cons
    {c : Char}
    (hc : isBlank c = false) :
    skipBlanks (c :: cs) = c :: cs :=
  List.dropWhile_cons_of_neg (by simp [hc])

theorem skipBlanks_cons_blank
    {c : Char}
    (hc : isBlank c = true) :
    skipBlanks (c :: cs) = skipBlanks cs :=
  List.dropWhile_cons_of_pos hc

/-! ## Steps of the reader -/

theorem readValue_scalar
    {c : Char}
    (hstring : c ≠ '\"')
    (harray : c ≠ '[')
    (hobject : c ≠ '\x7b') :
    readValue limits (fuel + 1) depth (c :: cs) = readScalar limits (c :: cs) := by
  rw [readValue]
  · exact fun _ h => hstring (List.cons.inj h).1
  · exact fun _ h => harray (List.cons.inj h).1
  · exact fun _ h => hobject (List.cons.inj h).1

theorem readValue_string
    {s : Text}
    (hstart : cs.head? = some '\"')
    (hread : readString fuel .noValue cs = .ok (s, rest)) :
    readValue limits (fuel + 1) depth cs = .ok (.str s, rest) := by
  obtain ⟨cs, rfl⟩ := List.head?_eq_some_iff.mp hstart
  rw [readValue, hread]

theorem readValue_array
    {c : Char}
    (hstart : skipBlanks rest = c :: cs)
    (hc : c ≠ ']') :
    readValue limits (fuel + 1) (depth + 1) ('[' :: rest) =
      readItems limits fuel depth (c :: cs) [] := by
  rw [readValue, if_neg (Nat.succ_ne_zero depth), hstart]
  split
  · next hempty => exact absurd (List.cons.inj hempty).1 hc
  · rfl

theorem readValue_object
    {c : Char}
    (hstart : skipBlanks rest = c :: cs)
    (hc : c ≠ '\x7d') :
    readValue limits (fuel + 1) (depth + 1) ('\x7b' :: rest) =
      readMembers limits fuel depth (c :: cs) [] := by
  rw [readValue, if_neg (Nat.succ_ne_zero depth), hstart]
  split
  · next hempty => exact absurd (List.cons.inj hempty).1 hc
  · rfl

theorem readItems_last
    {read : List Json}
    (hitem : readValue limits fuel depth cs = .ok (x, rest))
    {behind : List Char}
    (hend : skipBlanks rest = ']' :: behind) :
    readItems limits (fuel + 1) depth cs read = .ok (.arr (x :: read).reverse, behind) := by
  simp only [readItems, hitem, hend]

theorem readItems_next
    {read : List Json}
    (hitem : readValue limits fuel depth cs = .ok (x, rest))
    {behind : List Char}
    (hcomma : skipBlanks rest = ',' :: behind) :
    readItems limits (fuel + 1) depth cs read =
      readItems limits fuel depth (skipBlanks behind) (x :: read) := by
  simp only [readItems, hitem, hcomma]

/-! ## Values -/

/-- A written value starts with something that ends no array, and it is read back whatever stands
behind it. -/
structure ReadBack (limits : Limits) (depth : Nat) (j : Json) : Prop where
  starts : ∀ level, ∃ c cs, written .lines level j = c :: cs ∧ isBlank c = false ∧ c ≠ ']'
  reads : ∀ level fuel rest, 2 * (written .lines level j).length ≤ fuel →
    readValue limits fuel depth (written .lines level j ++ rest) = .ok (j, rest)

theorem ReadBack.skipBlanks_written
    (h : ReadBack limits depth j)
    (level : Nat) (rest : List Char) :
    skipBlanks (written .lines level j ++ rest) = written .lines level j ++ rest := by
  obtain ⟨c, cs, hwritten, hblank, -⟩ := h.starts level
  rw [hwritten, List.cons_append, skipBlanks_cons hblank]

/-- A word is read back as its value. -/
theorem readBack_of_mem_words
    {c : Char} {word : List Char}
    (hwritten : ∀ level, written .lines level j = c :: word)
    (hfind : ∀ rest, words.find? (fun w => w.1.isPrefixOf (c :: word ++ rest)) =
      some (c :: word, j))
    (hstart : isBlank c = false ∧ c ≠ ']' ∧ c ≠ '\"' ∧ c ≠ '[' ∧ c ≠ '\x7b') :
    ReadBack limits depth j where
  starts level := ⟨c, word, hwritten level, hstart.1, hstart.2.1⟩
  reads level fuel rest hfuel := by
    rw [hwritten, List.length_cons] at hfuel
    obtain ⟨fuel, rfl⟩ : ∃ n, fuel = n + 1 := Nat.exists_eq_add_one.mpr (by omega)
    obtain ⟨-, -, hstring, harray, hobject⟩ := hstart
    rw [hwritten, List.cons_append, readValue_scalar hstring harray hobject, readScalar,
      ← List.cons_append, hfind]
    dsimp only
    rw [List.drop_left]

theorem readBack_null : ReadBack limits depth .null :=
  readBack_of_mem_words (fun _ => rfl) (fun _ => rfl) (by decide)

theorem readBack_bool (b : Bool) : ReadBack limits depth (.bool b) := by
  cases b with
  | true => exact readBack_of_mem_words (fun _ => rfl) (fun _ => rfl) (by decide)
  | false => exact readBack_of_mem_words (fun _ => rfl) (fun _ => rfl) (by decide)

theorem readBack_str {s : Text} (hs : s.IsUnicode) : ReadBack limits depth (.str s) where
  starts level := ⟨'\"', _, rfl, rfl, by decide⟩
  reads level fuel rest hfuel := by
    rw [written] at hfuel ⊢
    have hlength : 0 < (writtenString s).length := by simp [writtenString]
    obtain ⟨fuel, rfl⟩ : ∃ n, fuel = n + 1 := Nat.exists_eq_add_one.mpr (by omega)
    exact readValue_string rfl (readString_written hs (by omega))

/-- The items of an array are read back up to its end, after those already read. -/
theorem readItems_written
    {read : List Json}
    (h : ∀ y ∈ x :: xs, ReadBack limits depth y)
    (hfuel : 2 * (written .lines level x ++ writtenItems .lines level xs).length < fuel) :
    readItems limits fuel depth (written .lines level x ++
        (writtenItems .lines level xs ++ (newLine outer ++ ']' :: rest))) read =
      .ok (.arr (read.reverse ++ x :: xs), rest) := by
  induction xs generalizing x fuel read with
  | nil =>
    rw [writtenItems, List.append_nil] at hfuel
    obtain ⟨fuel, rfl⟩ : ∃ n, fuel = n + 1 := Nat.exists_eq_add_one.mpr (by omega)
    have hitem := (h x List.mem_cons_self).reads level fuel
      (newLine outer ++ ']' :: rest) (by omega)
    have hend : skipBlanks (newLine outer ++ ']' :: rest) = ']' :: rest := by
      rw [skipBlanks_newLine, skipBlanks_cons rfl]
    rw [writtenItems, List.nil_append, readItems_last hitem hend, List.reverse_cons]
  | cons y ys ih =>
    let behind := writtenItems .lines level ys ++ (newLine outer ++ ']' :: rest)
    have hitems : writtenItems .lines level (y :: ys) ++ (newLine outer ++ ']' :: rest) =
        ',' :: (newLine level ++ (written .lines level y ++ behind)) := by
      simp only [writtenItems, Layout.lines, List.cons_append, List.append_assoc, behind]
    rw [writtenItems, Layout.lines] at hfuel
    simp only [List.length_append, List.length_cons] at hfuel
    obtain ⟨fuel, rfl⟩ : ∃ n, fuel = n + 1 := Nat.exists_eq_add_one.mpr (by omega)
    have hitem := (h x List.mem_cons_self).reads level fuel
      (',' :: (newLine level ++ (written .lines level y ++ behind))) (by rw [Layout.lines]; omega)
    have hcomma : skipBlanks (',' :: (newLine level ++ (written .lines level y ++ behind))) =
        ',' :: (newLine level ++ (written .lines level y ++ behind)) := skipBlanks_cons rfl
    have hy : ∀ z ∈ y :: ys, ReadBack limits depth z := fun z hz => h z (List.mem_cons_of_mem x hz)
    rw [hitems, readItems_next hitem hcomma, skipBlanks_newLine,
      (hy y List.mem_cons_self).skipBlanks_written,
      ih hy (by rw [List.length_append, Layout.lines]; omega)]
    simp

/-- A written member is read back, and what stands behind it decides how the reading goes on. -/
theorem readMembers_member
    {behind : List Char}
    (hname : name.IsUnicode)
    (hx : ReadBack limits depth x)
    (hfuel : (writtenString name).length ≤ fuel + 1 ∧ 2 * (written .lines level x).length ≤ fuel) :
    (∀ rest, skipBlanks behind = '\x7d' :: rest →
      readMembers limits (fuel + 1) depth
          (writtenString name ++ ':' :: ' ' :: (written .lines level x ++ behind)) read =
        .ok (.obj (setMember name x read), rest)) ∧
    ∀ rest, skipBlanks behind = ',' :: rest →
      readMembers limits (fuel + 1) depth
          (writtenString name ++ ':' :: ' ' :: (written .lines level x ++ behind)) read =
        readMembers limits fuel depth (skipBlanks rest) (setMember name x read) := by
  have hstring : readString fuel .noMemberName
      (writtenString name ++ ':' :: ' ' :: (written .lines level x ++ behind)) =
        .ok (name, ':' :: ' ' :: (written .lines level x ++ behind)) :=
    readString_written hname hfuel.1
  have hcolon : skipBlanks (':' :: ' ' :: (written .lines level x ++ behind)) =
      ':' :: ' ' :: (written .lines level x ++ behind) := skipBlanks_cons rfl
  have hblank : skipBlanks (' ' :: (written .lines level x ++ behind)) =
      written .lines level x ++ behind := by
    rw [skipBlanks_cons_blank rfl, hx.skipBlanks_written]
  have hvalue := hx.reads level fuel behind hfuel.2
  constructor
  · intro rest hend
    simp only [readMembers, hstring, hcolon, hblank, hvalue, hend]
  · intro rest hcomma
    simp only [readMembers, hstring, hcolon, hblank, hvalue, hcomma]

/-- A member of a new name comes behind the others. -/
theorem setMember_of_nodup (hnodup : ((read ++ (name, x) :: ms).map Prod.fst).Nodup) :
    setMember name x read = read ++ [(name, x)] := by
  induction read with
  | nil => rfl
  | cons m read ih =>
    obtain ⟨n, v⟩ := m
    rw [List.cons_append, List.map_cons, List.nodup_cons] at hnodup
    have hne : n ≠ name := by
      rintro rfl
      exact hnodup.1 (by simp)
    rw [setMember, if_neg hne, ih hnodup.2, List.cons_append]

/-- The members of an object are read back up to its end, after those already read. -/
theorem readMembers_written
    (hnames : ∀ m ∈ (name, x) :: ms, m.1.IsUnicode)
    (hvalues : ∀ m ∈ (name, x) :: ms, ReadBack limits depth m.2)
    (hnodup : ((read ++ (name, x) :: ms).map Prod.fst).Nodup)
    (hfuel : 2 * (writtenString name ++ (written .lines level x ++
      writtenMembers .lines level ms)).length < fuel) :
    readMembers limits fuel depth (writtenString name ++ ':' :: ' ' :: (written .lines level x ++
        (writtenMembers .lines level ms ++ (newLine outer ++ '\x7d' :: rest)))) read =
      .ok (.obj (read ++ (name, x) :: ms), rest) := by
  induction ms generalizing name x fuel read with
  | nil =>
    have hname : name.IsUnicode := hnames _ List.mem_cons_self
    have hx : ReadBack limits depth x := hvalues _ List.mem_cons_self
    have hend : skipBlanks (newLine outer ++ '\x7d' :: rest) = '\x7d' :: rest := by
      rw [skipBlanks_newLine, skipBlanks_cons rfl]
    rw [List.length_append, List.length_append] at hfuel
    obtain ⟨fuel, rfl⟩ : ∃ n, fuel = n + 1 := Nat.exists_eq_add_one.mpr (by omega)
    rw [writtenMembers, List.nil_append,
      (readMembers_member hname hx ⟨by omega, by omega⟩).1 rest hend, setMember_of_nodup hnodup]
  | cons m ms ih =>
    obtain ⟨name', y⟩ := m
    obtain ⟨hname, hnames⟩ := List.forall_mem_cons.mp hnames
    obtain ⟨hx, hvalues⟩ := List.forall_mem_cons.mp hvalues
    let after := writtenString name' ++ ':' :: ' ' :: (written .lines level y ++
      (writtenMembers .lines level ms ++ (newLine outer ++ '\x7d' :: rest)))
    have hcomma : skipBlanks (writtenMembers .lines level ((name', y) :: ms) ++
        (newLine outer ++ '\x7d' :: rest)) = ',' :: (newLine level ++ after) := by
      simp only [writtenMembers, Layout.lines, List.cons_append, List.append_assoc]
      exact skipBlanks_cons rfl
    have hafter : skipBlanks (newLine level ++ after) = after := by
      rw [skipBlanks_newLine]
      exact skipBlanks_cons rfl
    rw [writtenMembers, Layout.lines] at hfuel
    simp only [List.length_append, List.length_cons] at hfuel
    obtain ⟨fuel, rfl⟩ : ∃ n, fuel = n + 1 := Nat.exists_eq_add_one.mpr (by omega)
    have hmember : (writtenString name).length ≤ fuel + 1 ∧
        2 * (written .lines level x).length ≤ fuel := by
      rw [Layout.lines]
      omega
    rw [(readMembers_member hname hx hmember).2 _ hcomma, hafter, setMember_of_nodup hnodup,
      ih hnames hvalues (by simpa using hnodup)
        (by simp only [List.length_append, Layout.lines]; omega), List.append_assoc]
    rfl

theorem readBack_arr (h : ∀ x ∈ xs, ReadBack limits depth x) :
    ReadBack limits (depth + 1) (.arr xs) := by
  cases xs with
  | nil =>
    refine ⟨fun level => ⟨'[', _, rfl, rfl, by decide⟩, fun level fuel rest hfuel => ?_⟩
    rw [written, List.length_cons] at hfuel
    obtain ⟨fuel, rfl⟩ : ∃ n, fuel = n + 1 := Nat.exists_eq_add_one.mpr (by omega)
    rfl
  | cons x xs =>
    refine ⟨fun level => ⟨'[', _, rfl, rfl, by decide⟩, fun level fuel rest hfuel => ?_⟩
    have hx := h x List.mem_cons_self
    have hwritten : written .lines level (.arr (x :: xs)) ++ rest =
        '[' :: (newLine (level + 1) ++ (written .lines (level + 1) x ++
          (writtenItems .lines (level + 1) xs ++ (newLine level ++ ']' :: rest)))) := by
      simp [written, Layout.lines]
    obtain ⟨c, cs, hfirst, -, hc⟩ := hx.starts (level + 1)
    have hstart : skipBlanks (newLine (level + 1) ++ (written .lines (level + 1) x ++
        (writtenItems .lines (level + 1) xs ++ (newLine level ++ ']' :: rest)))) =
          c :: (cs ++ (writtenItems .lines (level + 1) xs ++ (newLine level ++ ']' :: rest))) := by
      rw [skipBlanks_newLine, hx.skipBlanks_written, hfirst, List.cons_append]
    rw [written] at hfuel
    simp only [List.length_append, List.length_cons] at hfuel
    obtain ⟨fuel, rfl⟩ : ∃ n, fuel = n + 1 := Nat.exists_eq_add_one.mpr (by omega)
    rw [hwritten, readValue_array hstart hc, ← List.cons_append, ← hfirst,
      readItems_written h (by rw [List.length_append]; omega)]
    rfl

theorem readBack_obj
    (hnames : ∀ m ∈ ms, m.1.IsUnicode)
    (hvalues : ∀ m ∈ ms, ReadBack limits depth m.2)
    (hnodup : (ms.map Prod.fst).Nodup) :
    ReadBack limits (depth + 1) (.obj ms) := by
  cases ms with
  | nil =>
    refine ⟨fun level => ⟨'\x7b', _, rfl, rfl, by decide⟩, fun level fuel rest hfuel => ?_⟩
    rw [written, List.length_cons] at hfuel
    obtain ⟨fuel, rfl⟩ : ∃ n, fuel = n + 1 := Nat.exists_eq_add_one.mpr (by omega)
    rfl
  | cons m ms =>
    obtain ⟨name, x⟩ := m
    refine ⟨fun level => ⟨'\x7b', _, rfl, rfl, by decide⟩, fun level fuel rest hfuel => ?_⟩
    let members := writtenString name ++ ':' :: ' ' :: (written .lines (level + 1) x ++
      (writtenMembers .lines (level + 1) ms ++ (newLine level ++ '\x7d' :: rest)))
    have hwritten : written .lines level (.obj ((name, x) :: ms)) ++ rest =
        '\x7b' :: (newLine (level + 1) ++ members) := by
      simp [written, Layout.lines, members]
    have hstart : skipBlanks (newLine (level + 1) ++ members) = members := by
      rw [skipBlanks_newLine]
      exact skipBlanks_cons rfl
    rw [written] at hfuel
    simp only [List.length_append, List.length_cons] at hfuel
    obtain ⟨fuel, rfl⟩ : ∃ n, fuel = n + 1 := Nat.exists_eq_add_one.mpr (by omega)
    have hread : readMembers limits fuel depth members [] = .ok (.obj ((name, x) :: ms), rest) :=
      readMembers_written hnames hvalues hnodup (by simp only [List.length_append]; omega)
    rw [hwritten, readValue_object hstart (by decide)]
    exact hread

/-- A plain value is read back. -/
theorem Plain.readBack (h : Plain depth j) : ReadBack limits depth j := by
  induction h with
  | null => exact readBack_null
  | bool b => exact readBack_bool b
  | str hs => exact readBack_str hs
  | arr _ ih => exact readBack_arr ih
  | obj hnames _ hnodup ih => exact readBack_obj hnames ih hnodup

/-! ## Documents -/

/-- Whether values are written with a character: the printable ones of ASCII, and line ends. -/
def IsWritable (c : Char) : Prop :=
  c = '\n' ∨ 0x20 ≤ c.toNat ∧ c.toNat < 0x7F

instance (c : Char) : Decidable (IsWritable c) :=
  inferInstanceAs (Decidable (_ ∨ _))

theorem isWritable_of_all
    {cs : List Char}
    (h : (cs.all fun c => decide (IsWritable c)) = true) :
    ∀ c ∈ cs, IsWritable c :=
  fun c hc => of_decide_eq_true (List.all_eq_true.mp h c hc)

theorem isWritable_hexDigits (width n : Nat) : ∀ c ∈ Text.hexDigits width n, IsWritable c := by
  have hdigit : ∀ d : Fin 16, IsWritable (Nat.digitChar d) := by decide
  induction width generalizing n with
  | zero => simp [Text.hexDigits]
  | succ width ih =>
    rw [Text.hexDigits, List.forall_mem_append, List.forall_mem_singleton]
    exact ⟨ih (n / 16), hdigit ⟨n % 16, Nat.mod_lt n (by decide)⟩⟩

theorem isWritable_unitEscape (n : Nat) : ∀ c ∈ Text.unitEscape n, IsWritable c := by
  rw [Text.unitEscape, List.forall_mem_cons, List.forall_mem_cons]
  exact ⟨by decide, by decide, isWritable_hexDigits 4 n⟩

theorem isWritable_of_simpleEscape?
    {letter ch : Char}
    (h : simpleEscape? letter = some ch) :
    IsWritable letter := by
  unfold simpleEscape? at h
  split at h
  all_goals first
    | decide
    | cases h

theorem isWritable_writtenCode
    {code : Code}
    (hcode : code.isSurrogate = false) :
    ∀ c ∈ writtenCode code, IsWritable c := by
  rcases writtenCode_cases hcode with ⟨letter, ch, -, hletter, hwritten⟩ |
    ⟨ch, -, -, -, hlow, hhigh, hwritten⟩ | ⟨-, hwritten⟩ | ⟨-, hwritten⟩
  · rw [hwritten, List.forall_mem_cons, List.forall_mem_singleton]
    exact ⟨by decide, isWritable_of_simpleEscape? hletter⟩
  · rw [hwritten, List.forall_mem_singleton]
    exact .inr ⟨hlow, hhigh⟩
  · rw [hwritten]
    exact isWritable_unitEscape _
  · rw [hwritten, List.forall_mem_append]
    exact ⟨isWritable_unitEscape _, isWritable_unitEscape _⟩

theorem isWritable_writtenString
    {s : Text}
    (hs : s.IsUnicode) :
    ∀ c ∈ writtenString s, IsWritable c := by
  rw [writtenString, List.cons_append, List.forall_mem_cons, List.forall_mem_append,
    List.forall_mem_flatMap, List.forall_mem_singleton]
  exact ⟨by decide, fun code hcode => isWritable_writtenCode (hs code hcode), by decide⟩

theorem isWritable_newLine (level : Nat) : ∀ c ∈ newLine level, IsWritable c := by
  rw [newLine, List.forall_mem_cons]
  refine ⟨by decide, fun c hc => ?_⟩
  rw [List.eq_of_mem_replicate hc]
  decide

theorem isWritable_between (level : Nat) : ∀ c ∈ Layout.lines.between level, IsWritable c :=
  List.forall_mem_cons.mpr ⟨by decide, isWritable_newLine level⟩

theorem writtenItems_eq (layout : Layout) (level : Nat) (xs : List Json) :
    writtenItems layout level xs =
      xs.flatMap fun x => layout.between level ++ written layout level x := by
  induction xs with
  | nil => rfl
  | cons x xs ih => rw [writtenItems, ih, List.flatMap_cons]

theorem writtenMembers_eq (layout : Layout) (level : Nat) (ms : List (Text × Json)) :
    writtenMembers layout level ms = ms.flatMap fun m =>
      layout.between level ++ writtenString m.1 ++ ':' :: ' ' :: written layout level m.2 := by
  induction ms with
  | nil => rfl
  | cons m ms ih => rw [writtenMembers, ih, List.flatMap_cons]

theorem Plain.isWritable_written
    (h : Plain depth j)
    (level : Nat) :
    ∀ c ∈ written .lines level j, IsWritable c := by
  induction h generalizing level with
  | null =>
    rw [written]
    exact isWritable_of_all (by decide)
  | bool b =>
    cases b
    all_goals
      rw [written]
      exact isWritable_of_all (by decide)
  | str hs =>
    rw [written]
    exact isWritable_writtenString hs
  | @arr depth xs _ ih =>
    cases xs with
    | nil =>
      rw [written]
      exact isWritable_of_all (by decide)
    | cons x xs =>
      obtain ⟨hx, hxs⟩ := List.forall_mem_cons.mp ih
      rw [written, writtenItems_eq]
      simp only [List.cons_append, List.append_assoc, List.forall_mem_cons,
        List.forall_mem_append, List.forall_mem_flatMap]
      exact ⟨by decide, isWritable_newLine (level + 1), hx (level + 1),
        fun y hy => ⟨isWritable_between (level + 1), hxs y hy (level + 1)⟩,
        isWritable_newLine level, by decide, by simp⟩
  | @obj depth ms hnames _ _ ih =>
    cases ms with
    | nil =>
      rw [written]
      exact isWritable_of_all (by decide)
    | cons m ms =>
      obtain ⟨hname, hnames⟩ := List.forall_mem_cons.mp hnames
      obtain ⟨hx, hxs⟩ := List.forall_mem_cons.mp ih
      rw [written, writtenMembers_eq]
      simp only [List.cons_append, List.append_assoc, List.forall_mem_cons,
        List.forall_mem_append, List.forall_mem_flatMap]
      exact ⟨by decide, isWritable_newLine (level + 1), isWritable_writtenString hname, by decide,
        by decide, hx (level + 1),
        fun m hm => ⟨isWritable_between (level + 1), isWritable_writtenString (hnames m hm),
          by decide, by decide, hxs m hm (level + 1)⟩,
        isWritable_newLine level, by decide, by simp⟩

/-- A plain value that is written over lines as a document, with a line end behind it, is read
back. -/
theorem parse_written (h : Plain limits.depth j) :
    parse limits (written .lines 0 j ++ ['\n']) = .ok j := by
  have hback : ReadBack limits limits.depth j := h.readBack
  have hread := hback.reads 0 (2 * (written .lines 0 j ++ ['\n']).length + 2) ['\n']
    (by rw [List.length_append]; omega)
  have hmark : (written .lines 0 j ++ ['\n']).head? ≠ some '\uFEFF' := by
    intro hmark
    have hmem : '\uFEFF' ∈ written .lines 0 j ++ ['\n'] := List.mem_of_head? hmark
    rw [List.mem_append, List.mem_singleton] at hmem
    rcases hmem with hmem | hmem
    · exact absurd (h.isWritable_written 0 _ hmem) (by decide)
    · exact absurd hmem (by decide)
  have hdocument : readDocument limits (written .lines 0 j ++ ['\n']) = .ok j := by
    rw [readDocument, if_neg (by simpa using hmark), hback.skipBlanks_written, hread]
    rfl
  rw [parse, hdocument]

end ClusterLineage.Json
