import ClusterLineage.Proofs.Kind
import ClusterLineage.Proofs.Lineage.Session
import ClusterLineage.Proofs.Text.Unicode
import ClusterLineage.Proofs.Text.Words
import ClusterLineage.Settings

/-!
# Which settings are valid

Settings are read just if the three variables with a restricted value are valid, each of them on its
own, and otherwise the first that is not is reported.  A level and a format are valid if they have a
known name in any letter case.  The name of a cluster is made of letters, digits and a few marks of
ASCII, so the key of the cluster has one slash and is made of the same characters.  A line feed
behind a name is let pass, and then it is in the key as well.
-/

namespace ClusterLineage

open Text (lower ofString ofStrings)

/-! ## Names of known severities and formats -/

theorem Severity.ofName?_eq_some_iff {text : Text} {severity : Severity} :
    ofName? text = some severity ↔ severity.name = lower text :=
  find?_name_eq_some_iff (fun s => by cases s <;> decide) (by decide)

theorem DiagramFormat.ofName?_eq_some_iff {text : Text} {format : DiagramFormat} :
    ofName? text = some format ↔ format.name = text :=
  find?_name_eq_some_iff (fun f => by cases f <;> decide) (by decide)

namespace Settings

/-! ## Names of clusters -/

/-- Whether a character is a letter or a digit of ASCII. -/
def IsAlphanumeric (c : Char) : Prop :=
  ('A' ≤ c ∧ c ≤ 'Z' ∨ 'a' ≤ c ∧ c ≤ 'z') ∨ '0' ≤ c ∧ c ≤ '9'

instance (c : Char) : Decidable (IsAlphanumeric c) :=
  inferInstanceAs (Decidable (_ ∨ _))

/-- Whether a character can stand in the name of a cluster. -/
def IsNameChar (c : Char) : Prop :=
  IsAlphanumeric c ∨ c ∈ ['.', '_', ':', '@', '-']

instance (c : Char) : Decidable (IsNameChar c) :=
  inferInstanceAs (Decidable (_ ∨ _))

/-- Whether a text names a cluster: it starts with a letter or digit of ASCII, and behind it come
only characters of names. -/
def IsClusterName (t : Text) : Prop :=
  ∃ c cs, t.codes = (c :: cs).map Code.ofChar ∧ IsAlphanumeric c ∧ ∀ d ∈ cs, IsNameChar d

/-- Whether a text names a cluster, or would do so without the line feed behind it. -/
def PassesAsName (t : Text) : Prop :=
  IsClusterName t ∨ ∃ name, IsClusterName name ∧ t = name ++ "\n"

variable {c : Char} {t name : Text}

theorem isAlphanum_iff : c.isAlphanum = true ↔ IsAlphanumeric c := by
  have hcapital : c.isUpper = true ↔ 'A' ≤ c ∧ c ≤ 'Z' := decide_eq_true_iff
  have hsmall : c.isLower = true ↔ 'a' ≤ c ∧ c ≤ 'z' :=
    Bool.and_eq_true_iff.trans (and_congr decide_eq_true_iff decide_eq_true_iff)
  have hdigit : c.isDigit = true ↔ '0' ≤ c ∧ c ≤ '9' :=
    Bool.and_eq_true_iff.trans (and_congr decide_eq_true_iff decide_eq_true_iff)
  have hclasses : c.isAlphanum = (c.isUpper || c.isLower || c.isDigit) := rfl
  rw [hclasses, Bool.or_eq_true, Bool.or_eq_true, hcapital, hsmall, hdigit, IsAlphanumeric]

theorem isNameStart_iff {c : Code} :
    isNameStart c = true ↔ ∃ d : Char, c = d ∧ IsAlphanumeric d := by
  rw [isNameStart, Option.any_eq_true]
  simp only [Code.toChar?_eq_some_iff, isAlphanum_iff]

theorem isNameCode_iff {c : Code} :
    isNameCode c = true ↔ ∃ d : Char, c = d ∧ IsNameChar d := by
  simp only [isNameCode, Bool.or_eq_true, isNameStart_iff, beq_iff_eq, IsNameChar, List.mem_cons,
    List.not_mem_nil, or_false]
  constructor
  · rintro (((((⟨d, rfl, hd⟩ | rfl) | rfl) | rfl) | rfl) | rfl)
    · exact ⟨d, rfl, .inl hd⟩
    all_goals exact ⟨_, rfl, .inr (by decide)⟩
  · rintro ⟨d, rfl, hd | rfl | rfl | rfl | rfl | rfl⟩
    · exact .inl (.inl (.inl (.inl (.inl ⟨d, rfl, hd⟩))))
    all_goals simp

theorem all_isNameCode_iff {cs : List Code} :
    cs.all isNameCode = true ↔
      ∃ ds : List Char, cs = ds.map Code.ofChar ∧ ∀ d ∈ ds, IsNameChar d := by
  induction cs with
  | nil => simp
  | cons c cs ih =>
    rw [List.all_cons, Bool.and_eq_true, ih, isNameCode_iff]
    constructor
    · rintro ⟨⟨d, rfl, hd⟩, ds, rfl, hds⟩
      exact ⟨d :: ds, rfl, List.forall_mem_cons.mpr ⟨hd, hds⟩⟩
    · rintro ⟨ds, hcodes, hds⟩
      obtain ⟨d, ds', rfl, rfl, rfl⟩ := List.map_eq_cons_iff.mp hcodes.symm
      obtain ⟨hd, hds⟩ := List.forall_mem_cons.mp hds
      exact ⟨⟨d, rfl, hd⟩, ds', rfl, hds⟩

theorem IsClusterName.isNameChar (ht : IsClusterName t) (hc : Code.ofChar c ∈ t.codes) :
    IsNameChar c := by
  obtain ⟨d, ds, hcodes, hd, hds⟩ := ht
  rw [hcodes] at hc
  obtain ⟨e, he, hec⟩ := List.mem_map.mp hc
  obtain rfl := Code.ofChar_inj.mp hec
  rcases List.mem_cons.mp he with rfl | he
  · exact .inl hd
  · exact hds e he

theorem IsClusterName.lineFeed_not_mem (ht : IsClusterName t) : Code.ofChar '\n' ∉ t.codes :=
  fun h => absurd (ht.isNameChar h) (by decide)

/-- What is left without a line feed at the end, together with it if there is one. -/
theorem withoutLineFeed_cases (cs : List Code) :
    cs = withoutLineFeed cs ∨ cs = withoutLineFeed cs ++ [Code.ofChar '\n'] := by
  unfold withoutLineFeed
  split
  · next h =>
    obtain ⟨ds, rfl⟩ := List.getLast?_eq_some_iff.mp h
    rw [List.dropLast_concat]
    exact .inr rfl
  · exact .inl rfl

theorem withoutLineFeed_of_not_mem {cs : List Code} (h : Code.ofChar '\n' ∉ cs) :
    withoutLineFeed cs = cs :=
  if_neg fun hlast => h (List.mem_of_getLast? hlast)

theorem withoutLineFeed_append (cs : List Code) :
    withoutLineFeed (cs ++ [Code.ofChar '\n']) = cs := by
  rw [withoutLineFeed, List.getLast?_concat, if_pos rfl, List.dropLast_concat]

theorem codes_append_lineFeed (t : Text) : (t ++ "\n").codes = t.codes ++ [Code.ofChar '\n'] :=
  rfl

theorem isRootName_eq_true_iff_withoutLineFeed :
    isRootName t = true ↔ IsClusterName ⟨withoutLineFeed t.codes⟩ := by
  rw [isRootName, IsClusterName]
  cases withoutLineFeed t.codes with
  | nil => simp
  | cons c cs =>
    dsimp only
    rw [Bool.and_eq_true, isNameStart_iff, all_isNameCode_iff]
    constructor
    · rintro ⟨⟨d, rfl, hd⟩, ds, rfl, hds⟩
      exact ⟨d, ds, rfl, hd, hds⟩
    · rintro ⟨d, ds, hcodes, hd, hds⟩
      obtain ⟨rfl, rfl⟩ := List.cons.inj hcodes
      exact ⟨⟨d, rfl, hd⟩, ds, rfl, hds⟩

/-- Names of clusters pass, with or without a line feed behind them, and nothing else does. -/
theorem isRootName_eq_true_iff : isRootName t = true ↔ PassesAsName t := by
  rw [isRootName_eq_true_iff_withoutLineFeed]
  constructor
  · intro h
    rcases withoutLineFeed_cases t.codes with hcodes | hcodes
    · rw [← hcodes] at h
      exact .inl h
    · exact .inr ⟨_, h, congrArg Text.mk hcodes⟩
  · rintro (h | ⟨name, h, rfl⟩)
    · rwa [withoutLineFeed_of_not_mem h.lineFeed_not_mem]
    · rwa [codes_append_lineFeed, withoutLineFeed_append]

/-! ## The key of the cluster -/

/-- Whether a text is the key of a cluster: its kind, a slash, and a name in small letters. -/
def IsRootKey (key : Text) : Prop :=
  ∃ name, IsClusterName name ∧ lower name = name ∧ key = "cluster/" ++ name

theorem IsNameChar.toNat_lt (hc : IsNameChar c) : c.toNat < 128 := by
  have hle (d : Char) (hd : c ≤ d) (hlt : d.toNat < 128) : c.toNat < 128 :=
    Nat.lt_of_le_of_lt (UInt32.le_iff_toNat_le.mp hd) hlt
  rcases hc with ((⟨-, hc⟩ | ⟨-, hc⟩) | ⟨-, hc⟩) | hc
  · exact hle _ hc (by decide)
  · exact hle _ hc (by decide)
  · exact hle _ hc (by decide)
  · simp only [List.mem_cons, List.not_mem_nil, or_false] at hc
    rcases hc with rfl | rfl | rfl | rfl | rfl
    all_goals decide

theorem toNat_lt_of_name
    {cs : List Char}
    (hc : IsAlphanumeric c)
    (hcs : ∀ d ∈ cs, IsNameChar d) :
    ∀ d ∈ c :: cs, d.toNat < 128 :=
  List.forall_mem_cons.mpr ⟨IsNameChar.toNat_lt (.inl hc), fun d hd => (hcs d hd).toNat_lt⟩

theorem toLower_of_ascii (hc : c.toNat < 128) :
    (IsAlphanumeric c → IsAlphanumeric c.toLower) ∧ (IsNameChar c → IsNameChar c.toLower) := by
  have hall : ∀ n : Fin 128,
      (IsAlphanumeric (Char.ofNat n) → IsAlphanumeric (Char.ofNat n).toLower) ∧
        (IsNameChar (Char.ofNat n) → IsNameChar (Char.ofNat n).toLower) := by
    decide +kernel
  simpa using hall ⟨c.toNat, hc⟩

/-- The small letters of a name are a name. -/
theorem IsClusterName.lower (ht : IsClusterName t) : IsClusterName (lower t) := by
  obtain ⟨c, cs, hcodes, hc, hcs⟩ := ht
  have hascii := toNat_lt_of_name hc hcs
  refine ⟨c.toLower, cs.map Char.toLower, Text.codes_lower_of_ascii hcodes hascii,
    (toLower_of_ascii (hascii c List.mem_cons_self)).1 hc, ?_⟩
  intro d hd
  obtain ⟨e, he, rfl⟩ := List.mem_map.mp hd
  exact (toLower_of_ascii (hascii e (List.mem_cons_of_mem c he))).2 (hcs e he)

/-- The key of the cluster has the name in small letters. -/
theorem key_rootOf (name : Text) : (Intake.rootOf name).key = "cluster/" ++ lower name := by
  change lower ("cluster" ++ "/" ++ name) = _
  rw [Text.lower_append_slash, show lower "cluster" = ofString "cluster" by decide +kernel]
  rfl

theorem PassesAsName.isNameChar_or
    (ht : PassesAsName t)
    (hc : Code.ofChar c ∈ t.codes) :
    IsNameChar c ∨ c = '\n' := by
  rcases ht with ht | ⟨name, hname, rfl⟩
  · exact .inl (ht.isNameChar hc)
  · rw [codes_append_lineFeed, List.mem_append] at hc
    rcases hc with hc | hc
    · exact .inl (hname.isNameChar hc)
    · exact .inr (Code.ofChar_inj.mp (List.mem_singleton.mp hc))

theorem PassesAsName.slashless (ht : PassesAsName t) : t.Slashless :=
  fun h => absurd (ht.isNameChar_or h) (by decide)

theorem PassesAsName.isClusterName_iff (ht : PassesAsName t) :
    IsClusterName t ↔ Code.ofChar '\n' ∉ t.codes := by
  refine ⟨IsClusterName.lineFeed_not_mem, fun hnot => ht.resolve_right ?_⟩
  rintro ⟨name, -, rfl⟩
  exact hnot (List.mem_append_right _ List.mem_cons_self)

theorem IsClusterName.lower_append_lineFeed (hname : IsClusterName name) :
    Text.lower (name ++ "\n") = Text.lower name ++ "\n" := by
  obtain ⟨c, cs, hcodes, hc, hcs⟩ := hname
  have hascii := toNat_lt_of_name hc hcs
  have hline : (name ++ "\n").codes = (c :: cs ++ ['\n']).map Code.ofChar := by
    rw [codes_append_lineFeed, hcodes, List.map_append, List.map_singleton]
  have hlower := Text.codes_lower_of_ascii hline
    (List.forall_mem_append.mpr ⟨hascii, List.forall_mem_singleton.mpr (by decide)⟩)
  rw [List.map_append, List.map_append, ← Text.codes_lower_of_ascii hcodes hascii] at hlower
  exact congrArg Text.mk hlower

/-- The key of the cluster is malformed just if there is a line feed behind its name. -/
theorem PassesAsName.isRootKey_iff (hname : PassesAsName name) :
    IsRootKey (Intake.rootOf name).key ↔ Code.ofChar '\n' ∉ name.codes := by
  rw [key_rootOf, ← hname.isClusterName_iff]
  constructor
  · rintro ⟨small, hsmall, -, hkey⟩
    obtain rfl : Text.lower name = small :=
      congrArg Text.mk (List.append_cancel_left (congrArg Text.codes hkey))
    -- a line feed is still there in small letters, and no name has one
    refine hname.resolve_right ?_
    rintro ⟨plain, hplain, rfl⟩
    rw [hplain.lower_append_lineFeed] at hsmall
    exact hsmall.lineFeed_not_mem (List.mem_append_right _ List.mem_cons_self)
  · intro h
    exact ⟨Text.lower name, h.lower, Text.lower_lower name, rfl⟩

theorem count_slash_key_rootOf (hname : name.Slashless) :
    (Intake.rootOf name).key.codes.count (Code.ofChar '/') = 1 := by
  rw [key_rootOf, Text.codes_append, List.count_append,
    List.count_eq_zero.mpr (show Code.ofChar '/' ∉ _ from hname.lower)]
  decide

/-! ## Reading the variables -/

/-- What a variable says: its value, or its default if it is not set. -/
def Environment.text (env : Environment) (name default : String) : Text :=
  (env.lookup name).getD default

/-- Whether a text names a level of the log, in any letter case. -/
def IsLogLevel (t : Text) : Prop :=
  lower t ∈ ofStrings ["debug", "info", "warning", "error"]

instance (t : Text) : Decidable (IsLogLevel t) :=
  inferInstanceAs (Decidable (_ ∈ _))

/-- Whether a text names a format, in any letter case. -/
def IsFormat (t : Text) : Prop :=
  lower t ∈ ofStrings ["dot", "mermaid"]

instance (t : Text) : Decidable (IsFormat t) :=
  inferInstanceAs (Decidable (_ ∈ _))

/-- What the variables set, if the three that are restricted are valid. -/
structure SetBy (env : Environment) (s : Settings) : Prop where
  logLevel : s.logLevel.name = lower (env.text "LOG_LEVEL" "info")
  logAsJson : s.logAsJson = true ↔
    lower (env.text "LOG_JSON" "true") ∈ ofStrings ["true", "1", "yes"]
  rootName : s.rootName = env.text "ROOT_NAME" "cluster"
  passes : PassesAsName s.rootName
  validateOwnership : s.validateOwnership = true ↔
    lower (env.text "VALIDATE_OWNERSHIP" "true") ∈ ofStrings ["true", "1", "yes"]
  format : s.format.name = lower (env.text "EXPORT_FORMAT" "dot")

/-- The first of the restricted variables that is invalid, the level before the name of the cluster
and this before the format. -/
inductive FirstInvalid (env : Environment) : SettingsError → Prop where
  | logLevel (h : ¬IsLogLevel (env.text "LOG_LEVEL" "info")) :
      FirstInvalid env (.logLevel (env.text "LOG_LEVEL" "info"))
  | rootName (hlevel : IsLogLevel (env.text "LOG_LEVEL" "info"))
      (h : ¬PassesAsName (env.text "ROOT_NAME" "cluster")) :
      FirstInvalid env (.rootName (env.text "ROOT_NAME" "cluster"))
  | format (hlevel : IsLogLevel (env.text "LOG_LEVEL" "info"))
      (hname : PassesAsName (env.text "ROOT_NAME" "cluster"))
      (h : ¬IsFormat (env.text "EXPORT_FORMAT" "dot")) :
      FirstInvalid env (.format (env.text "EXPORT_FORMAT" "dot"))

variable {env : Environment} {s : Settings} {e : SettingsError}

/-- A setting is what its reader makes of the variable, or of the text of the default. -/
theorem setting_eq
    {α : Type} {variableName : String} {default : α}
    {read? : Text → Option α} {error : Text → SettingsError}
    (defaultText : String)
    (hdefault : read? defaultText = some default) :
    setting env variableName default read? error =
      (read? (env.text variableName defaultText)).elim
        (.error (error (env.text variableName defaultText))) .ok := by
  rw [setting, Environment.text]
  cases env.lookup variableName with
  | none =>
    rw [Option.getD_none, hdefault]
    rfl
  | some value =>
    rw [Option.getD_some]
    dsimp only
    cases read? value with
    | none => rfl
    | some x => rfl

theorem switch_eq_true_iff {variableName : String} :
    switch env variableName true = true ↔
      lower (env.text variableName "true") ∈ ofStrings ["true", "1", "yes"] := by
  have hyes (t : Text) : isYes t = true ↔ lower t ∈ ofStrings ["true", "1", "yes"] :=
    List.contains_iff_mem
  rw [← hyes, switch, Environment.text]
  cases env.lookup variableName with
  | none => exact iff_of_true rfl (by decide +kernel)
  | some value => rfl

/-! ## Levels, names and formats -/

theorem isLogLevel_iff : IsLogLevel t ↔ ∃ severity : Severity, severity.name = lower t := by
  constructor
  · intro h
    have hnames : lower t ∈ [.debug, .info, .warning, .error].map Severity.name := h
    obtain ⟨severity, -, hname⟩ := List.mem_map.mp hnames
    exact ⟨severity, hname⟩
  · rintro ⟨severity, hname⟩
    rw [IsLogLevel, ← hname]
    cases severity <;> decide

theorem isFormat_iff : IsFormat t ↔ ∃ format : DiagramFormat, format.name = lower t := by
  constructor
  · intro h
    have hnames : lower t ∈ [.dot, .mermaid].map DiagramFormat.name := h
    obtain ⟨format, -, hname⟩ := List.mem_map.mp hnames
    exact ⟨format, hname⟩
  · rintro ⟨format, hname⟩
    rw [IsFormat, ← hname]
    cases format <;> decide

theorem ofName?_eq_none_of_not_isLogLevel (h : ¬IsLogLevel t) : Severity.ofName? t = none :=
  Option.eq_none_iff_forall_ne_some.mpr fun severity hread =>
    h (isLogLevel_iff.mpr ⟨severity, Severity.ofName?_eq_some_iff.mp hread⟩)

theorem ofName?_lower_eq_none_of_not_isFormat (h : ¬IsFormat t) :
    DiagramFormat.ofName? (lower t) = none :=
  Option.eq_none_iff_forall_ne_some.mpr fun format hread =>
    h (isFormat_iff.mpr ⟨format, DiagramFormat.ofName?_eq_some_iff.mp hread⟩)

theorem setting_logLevel (env : Environment) :
    setting env "LOG_LEVEL" .info Severity.ofName? .logLevel =
      (Severity.ofName? (env.text "LOG_LEVEL" "info")).elim
        (.error (.logLevel (env.text "LOG_LEVEL" "info"))) .ok :=
  setting_eq "info" (by decide +kernel)

theorem setting_rootName (env : Environment) :
    setting env "ROOT_NAME" Intake.defaultRootName
        (fun text => if isRootName text then some text else none) .rootName =
      if isRootName (env.text "ROOT_NAME" "cluster") then .ok (env.text "ROOT_NAME" "cluster")
      else .error (.rootName (env.text "ROOT_NAME" "cluster")) := by
  refine (setting_eq "cluster" ?_).trans ?_
  · decide +kernel
  · cases isRootName (env.text "ROOT_NAME" "cluster") with
    | false => rfl
    | true => rfl

theorem setting_format (env : Environment) :
    setting env "EXPORT_FORMAT" .dot (fun text => DiagramFormat.ofName? (lower text)) .format =
      (DiagramFormat.ofName? (lower (env.text "EXPORT_FORMAT" "dot"))).elim
        (.error (.format (env.text "EXPORT_FORMAT" "dot"))) .ok :=
  setting_eq "dot" (by decide +kernel)

/-! ## What is read -/

theorem load_eq_ok_of_setBy (h : SetBy env s) : load env = .ok s := by
  have hlevel := Severity.ofName?_eq_some_iff.mpr h.logLevel
  have hname := isRootName_eq_true_iff.mpr (h.rootName ▸ h.passes)
  have hformat := DiagramFormat.ofName?_eq_some_iff.mpr h.format
  have hjson : switch env "LOG_JSON" true = s.logAsJson :=
    Bool.eq_iff_iff.mpr (switch_eq_true_iff.trans h.logAsJson.symm)
  have hvalidate : switch env "VALIDATE_OWNERSHIP" true = s.validateOwnership :=
    Bool.eq_iff_iff.mpr (switch_eq_true_iff.trans h.validateOwnership.symm)
  simp only [load, setting_logLevel, hlevel, setting_rootName, if_pos hname, setting_format,
    hformat, hjson, hvalidate, Option.elim_some, bind, Except.bind, pure, Except.pure]
  rw [← h.rootName]

theorem load_eq_error_of_firstInvalid (h : FirstInvalid env e) : load env = .error e := by
  cases h with
  | logLevel h =>
    simp only [load, setting_logLevel, ofName?_eq_none_of_not_isLogLevel h, Option.elim_none,
      bind, Except.bind]
  | rootName hlevel h =>
    obtain ⟨severity, hseverity⟩ := isLogLevel_iff.mp hlevel
    have hname := mt isRootName_eq_true_iff.mp h
    simp only [load, setting_logLevel, Severity.ofName?_eq_some_iff.mpr hseverity,
      setting_rootName, if_neg hname, Option.elim_some, bind, Except.bind]
  | format hlevel hname h =>
    obtain ⟨severity, hseverity⟩ := isLogLevel_iff.mp hlevel
    have hname := isRootName_eq_true_iff.mpr hname
    simp only [load, setting_logLevel, Severity.ofName?_eq_some_iff.mpr hseverity,
      setting_rootName, if_pos hname, setting_format, ofName?_lower_eq_none_of_not_isFormat h,
      Option.elim_some, Option.elim_none, bind, Except.bind]

theorem exists_setBy
    (hlevel : IsLogLevel (env.text "LOG_LEVEL" "info"))
    (hname : PassesAsName (env.text "ROOT_NAME" "cluster"))
    (hformat : IsFormat (env.text "EXPORT_FORMAT" "dot")) :
    ∃ s, SetBy env s := by
  obtain ⟨severity, hseverity⟩ := isLogLevel_iff.mp hlevel
  obtain ⟨format, hformat⟩ := isFormat_iff.mp hformat
  exact ⟨{
    logLevel := severity
    logAsJson := switch env "LOG_JSON" true
    rootName := env.text "ROOT_NAME" "cluster"
    validateOwnership := switch env "VALIDATE_OWNERSHIP" true
    format := format },
    hseverity, switch_eq_true_iff, rfl, hname, switch_eq_true_iff, hformat⟩

theorem setBy_or_firstInvalid (env : Environment) :
    (∃ s, SetBy env s) ∨ ∃ e, FirstInvalid env e := by
  by_cases hlevel : IsLogLevel (env.text "LOG_LEVEL" "info")
  · by_cases hname : PassesAsName (env.text "ROOT_NAME" "cluster")
    · by_cases hformat : IsFormat (env.text "EXPORT_FORMAT" "dot")
      · exact .inl (exists_setBy hlevel hname hformat)
      · exact .inr ⟨_, .format hlevel hname hformat⟩
    · exact .inr ⟨_, .rootName hlevel hname⟩
  · exact .inr ⟨_, .logLevel hlevel⟩

theorem load_eq_ok_iff : load env = .ok s ↔ SetBy env s := by
  -- the variables set something or have an invalid one among them, and each is what is read
  refine ⟨fun hload => ?_, load_eq_ok_of_setBy⟩
  rcases setBy_or_firstInvalid env with ⟨s', hs⟩ | ⟨e, he⟩
  · rw [load_eq_ok_of_setBy hs, Except.ok.injEq] at hload
    rwa [← hload]
  · rw [load_eq_error_of_firstInvalid he] at hload
    cases hload

theorem load_eq_error_iff : load env = .error e ↔ FirstInvalid env e := by
  refine ⟨fun hload => ?_, load_eq_error_of_firstInvalid⟩
  rcases setBy_or_firstInvalid env with ⟨s, hs⟩ | ⟨e', he⟩
  · rw [load_eq_ok_of_setBy hs] at hload
    cases hload
  · rw [load_eq_error_of_firstInvalid he, Except.error.injEq] at hload
    rwa [← hload]

/-- Settings are read just if the level of the log and the format have known names in any letter
case and the name of the cluster is one, a variable that is not set having its default, or if there
is a line feed behind such a name.  Otherwise the first of the three that is not is reported.  The
name that is read has no slash, blank or quotation mark, and the key of every lineage with this name
is a name behind `cluster/`, unless there was a line feed behind it. -/
theorem load_exact (env : Environment) :
    ((∃ s, load env = .ok s) ↔
      IsLogLevel (env.text "LOG_LEVEL" "info") ∧
        PassesAsName (env.text "ROOT_NAME" "cluster") ∧
        IsFormat (env.text "EXPORT_FORMAT" "dot")) ∧
      (∀ e, load env = .error e ↔ FirstInvalid env e) ∧
      ∀ s, load env = .ok s → SetBy env s ∧
        (∀ c ∈ ['/', ' ', '\t', '\r', '\'', '"'], Code.ofChar c ∉ s.rootName.codes) ∧
        (IsClusterName s.rootName ↔ Code.ofChar '\n' ∉ s.rootName.codes) ∧
        ∀ descriptors validate,
          let key := (Lineage.build s.rootName descriptors validate).lineage.root.key
          key = "cluster/" ++ lower s.rootName ∧ key.codes.count (Code.ofChar '/') = 1 ∧
            (IsRootKey key ↔ Code.ofChar '\n' ∉ s.rootName.codes) := by
  refine ⟨⟨?_, ?_⟩, fun _ => load_eq_error_iff, ?_⟩
  · rintro ⟨s, hload⟩
    have hs := load_eq_ok_iff.mp hload
    exact ⟨isLogLevel_iff.mpr ⟨_, hs.logLevel⟩, hs.rootName ▸ hs.passes,
      isFormat_iff.mpr ⟨_, hs.format⟩⟩
  · rintro ⟨hlevel, hname, hformat⟩
    obtain ⟨s, hs⟩ := exists_setBy hlevel hname hformat
    exact ⟨s, load_eq_ok_of_setBy hs⟩
  · intro s hload
    have hs := load_eq_ok_iff.mp hload
    refine ⟨hs, ?_, hs.passes.isClusterName_iff, fun descriptors validate => ?_⟩
    · have hapart {c : Char} (hc : ¬(IsNameChar c ∨ c = '\n')) :
          Code.ofChar c ∉ s.rootName.codes :=
        fun h => hc (hs.passes.isNameChar_or h)
      simp only [List.forall_mem_cons]
      exact ⟨hapart (by decide), hapart (by decide), hapart (by decide), hapart (by decide),
        hapart (by decide), hapart (by decide), by simp⟩
    · rw [Lineage.lineage_build, Lineage.root_linkAll]
      exact ⟨key_rootOf _, count_slash_key_rootOf hs.passes.slashless, hs.passes.isRootKey_iff⟩

/-- Capitals are let pass everywhere, and in the key they are small letters. -/
theorem load_exact_capitals :
    let env : Environment :=
      [("EXPORT_FORMAT", "MerMaid"), ("LOG_LEVEL", "WARNING"), ("ROOT_NAME", "Prod.EU-1")]
    ∃ s, load env = .ok s ∧ s.logLevel = .warning ∧ s.logAsJson = true ∧ s.format = .mermaid ∧
      s.rootName = ofString "Prod.EU-1" ∧
      let key := (Lineage.build s.rootName [] true).lineage.root.key
      key = ofString "cluster/prod.eu-1" ∧ IsRootKey key := by
  intro env
  obtain ⟨hloads, -, hread⟩ := load_exact env
  have hpasses : PassesAsName (env.text "ROOT_NAME" "cluster") :=
    isRootName_eq_true_iff.mp (by decide +kernel)
  obtain ⟨s, hload⟩ := hloads.mpr ⟨by decide +kernel, hpasses, by decide +kernel⟩
  obtain ⟨hs, -, -, hkeys⟩ := hread s hload
  have hrootName : s.rootName = ofString "Prod.EU-1" := hs.rootName
  have hlineFeed : Code.ofChar '\n' ∉ s.rootName.codes := by
    rw [hrootName]
    decide +kernel
  obtain ⟨hkey, -, hwellFormed⟩ := hkeys [] true
  have hlevel : Severity.ofName? (env.text "LOG_LEVEL" "info") = some .warning := by
    decide +kernel
  have hformat : DiagramFormat.ofName? (lower (env.text "EXPORT_FORMAT" "dot")) =
      some .mermaid := by
    decide +kernel
  rw [Severity.ofName?_eq_some_iff.mpr hs.logLevel, Option.some.injEq] at hlevel
  rw [DiagramFormat.ofName?_eq_some_iff.mpr hs.format, Option.some.injEq] at hformat
  refine ⟨s, hload, hlevel, hs.logAsJson.mpr (by decide +kernel), hformat, hrootName, ?_,
    hwellFormed.mpr hlineFeed⟩
  rw [hkey, hrootName]
  decide +kernel

/-- A line feed behind a name is let pass, and it is in the key of the cluster. -/
theorem load_lineFeed_behind_name :
    let env : Environment := [("ROOT_NAME", "a\n")]
    ¬IsClusterName (env.text "ROOT_NAME" "cluster") ∧
      ∃ s, load env = .ok s ∧ Code.ofChar '\n' ∈ s.rootName.codes ∧
        let key := (Lineage.build s.rootName [] true).lineage.root.key
        key = ofString "cluster/a\n" ∧ ¬IsRootKey key := by
  intro env
  have hname : IsClusterName "a" := ⟨'a', [], rfl, by decide, List.forall_mem_nil _⟩
  have hpasses : PassesAsName (ofString "a\n") := .inr ⟨"a", hname, rfl⟩
  have hlineFeed : Code.ofChar '\n' ∈ (ofString "a\n").codes := by decide
  have hload : load env = .ok { rootName := "a\n" } := by decide +kernel
  refine ⟨fun h => h.lineFeed_not_mem hlineFeed, _, hload, hlineFeed, ?_⟩
  dsimp only
  rw [Lineage.lineage_build, Lineage.root_linkAll, hpasses.isRootKey_iff, key_rootOf]
  exact ⟨by decide +kernel, fun h => h hlineFeed⟩

end Settings

end ClusterLineage
