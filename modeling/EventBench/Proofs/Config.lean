import EventBench.Config
import EventBench.Proofs.Text.Integer

namespace EventBench.Config

/-- What is wrong with an environment that gives no configuration. -/
inductive Rejects (env : Environment) : Problem → Prop
  | notAnInteger (text : String) (given : setting env iterationsVariable = some text)
    (unread : Text.Integer.read? text = none) : Rejects env (.notAnInteger text)
  | tooFewIterations (n : Int) (read : iterationsOf env = .ok n) (few : n < 1) : Rejects env (.tooFewIterations n)
  | unknownLevel (n : Int) (name : String) (read : iterationsOf env = .ok n) (enough : 1 ≤ n)
    (named : Text.upper ((setting env levelVariable).getD defaultLevel) = name)
    (unknown : ∀ level : Log.Level, level.name ≠ name) : Rejects env (.unknownLevel name)

/-- Two values of a variable that differ in blanks around them only; a value of nothing but blanks is the same as
none. -/
inductive Respaced : Option String → Option String → Prop
  | padded (before value after : List Char) (hbefore : ∀ c ∈ before, Text.isBlank c = true)
    (hafter : ∀ c ∈ after, Text.isBlank c = true) :
    Respaced (some (String.ofList value)) (some (String.ofList (before ++ value ++ after)))
  | blank (value : List Char) (hvalue : ∀ c ∈ value, Text.isBlank c = true) :
    Respaced none (some (String.ofList value))
  | refl (value : Option String) : Respaced value value
  | symm {value value' : Option String} (h : Respaced value value') : Respaced value' value
  | trans {value value' value'' : Option String} (h : Respaced value value') (h' : Respaced value' value'') :
    Respaced value value''

section

variable (env : Environment) (name : String)

theorem setting_eq_bind :
    setting env name
      = (env name).bind fun value => if (Text.strip value).isEmpty then none else some (Text.strip value) := by
  cases hvalue : env name with
  | none => simp [setting, hvalue]
  | some value => simp [setting, hvalue]

theorem setting_eq_some (text : String) (h : setting env name = some text) :
    text ≠ "" ∧ Text.Trimmed Text.isBlank text.toList := by
  rw [setting_eq_bind] at h
  obtain ⟨value, -, hvalue⟩ := Option.bind_eq_some_iff.mp h
  by_cases hempty : (Text.strip value).isEmpty = true
  · simp [hempty] at hvalue
  · simp only [hempty, if_false, Option.some.injEq, Bool.false_eq_true] at hvalue
    rw [← hvalue]
    refine ⟨?_, Text.trimmed_strip value⟩
    intro hnil
    simp [hnil] at hempty

theorem setting_of_trimmed (text : String) (h : env name = some text) (hne : text ≠ "")
    (htrimmed : Text.Trimmed Text.isBlank text.toList) : setting env name = some text := by
  have hempty : text.isEmpty = false := by simpa using hne
  rw [setting_eq_bind, h, Option.bind_some, Text.strip_of_trimmed text htrimmed, hempty]
  rfl

/-- A setting does not depend on the blanks around its value. -/
theorem setting_congr (env' : Environment) (h : Respaced (env name) (env' name)) :
    setting env' name = setting env name := by
  rw [setting_eq_bind, setting_eq_bind]
  generalize env name = value at h ⊢
  generalize env' name = value' at h ⊢
  induction h with
  | padded before value after hbefore hafter =>
    have hstrip : Text.strip (String.ofList (before ++ value ++ after)) = Text.strip (String.ofList value) := by
      simp only [Text.strip, String.toList_ofList, Text.trim_padded Text.isBlank before value after hbefore hafter]
    rw [Option.bind_some, Option.bind_some, hstrip]
  | blank value hvalue =>
    have hstrip : Text.strip (String.ofList value) = "" := by
      simp [Text.strip, (Text.trim_eq_nil_iff Text.isBlank value).mpr hvalue]
    have hempty : ("" : String).isEmpty = true := by decide
    rw [Option.bind_some, hstrip, if_pos hempty, Option.bind_none]
  | refl value => rfl
  | symm _ ih => exact ih.symm
  | trans _ _ ih ih' => exact ih'.trans ih

end

section

variable (env : Environment)

theorem make_eq_ok_iff (parser : String) (iterations : Int) (level : String) (c : Config) :
    make parser iterations level = .ok c ↔
      1 ≤ iterations ∧ Text.upper level = c.level.name ∧ c.parser = parser ∧ c.iterations = iterations := by
  obtain ⟨parser', iterations', level'⟩ := c
  unfold make
  by_cases hn : iterations < 1
  · simp only [hn, if_true, reduceCtorEq, false_iff, not_and]
    omega
  · cases hname : Log.Level.ofName? (Text.upper level) with
    | none =>
      have hunknown : Text.upper level ≠ level'.name := by
        intro heq
        rw [heq, Log.Level.ofName?_name] at hname
        cases hname
      simp [hn, hunknown]
    | some found =>
      have hfound := Log.Level.name_of_ofName? hname
      have hsame : found = level' ↔ Text.upper level = level'.name := by
        constructor
        · intro heq
          rw [← hfound, heq]
        · intro heq
          rw [heq, Log.Level.ofName?_name] at hname
          exact (Option.some.inj hname).symm
      simp only [hn, if_false, Except.ok.injEq, mk.injEq, hsame]
      constructor
      · intro h
        obtain ⟨hparser, hiterations, hlevel⟩ := h
        exact ⟨by omega, hlevel, hparser.symm, hiterations.symm⟩
      · intro h
        obtain ⟨-, hlevel, hparser, hiterations⟩ := h
        exact ⟨hparser.symm, hiterations.symm, hlevel⟩

theorem ofEnvironment_eq_ok_iff (c : Config) :
    ofEnvironment env = .ok c ↔
      iterationsOf env = .ok c.iterations ∧ 1 ≤ c.iterations ∧
      (setting env parserVariable).getD defaultParser = c.parser ∧
      Text.upper ((setting env levelVariable).getD defaultLevel) = c.level.name := by
  unfold ofEnvironment
  cases hread : iterationsOf env with
  | error problem => simp
  | ok n =>
    simp only [make_eq_ok_iff, Except.ok.injEq]
    constructor
    · intro h
      obtain ⟨hn, hlevel, hparser, hiterations⟩ := h
      exact ⟨hiterations.symm, by omega, hparser.symm, hlevel⟩
    · intro h
      obtain ⟨hiterations, hn, hparser, hlevel⟩ := h
      exact ⟨by omega, hlevel, hparser.symm, hiterations.symm⟩

theorem rejects_of_ofEnvironment (problem : Problem) (h : ofEnvironment env = .error problem) :
    Rejects env problem := by
  unfold ofEnvironment at h
  cases hread : iterationsOf env with
  | error cause =>
    rw [hread] at h
    obtain rfl := Except.error.inj h
    unfold iterationsOf at hread
    cases hgiven : setting env iterationsVariable with
    | none => simp [hgiven] at hread
    | some text =>
      cases hunread : Text.Integer.read? text with
      | none =>
        simp only [hgiven, hunread, Except.error.injEq] at hread
        rw [← hread]
        exact .notAnInteger text hgiven hunread
      | some n => simp [hgiven, hunread] at hread
  | ok n =>
    simp only [hread, make] at h
    by_cases hn : n < 1
    · simp only [hn, if_true, Except.error.injEq] at h
      rw [← h]
      exact .tooFewIterations n hread hn
    · cases hname : Log.Level.ofName? (Text.upper ((setting env levelVariable).getD defaultLevel)) with
      | none =>
        simp only [hn, if_false, hname, Except.error.injEq] at h
        rw [← h]
        apply Rejects.unknownLevel n _ hread (Int.not_lt.mp hn) rfl
        intro level heq
        rw [← heq, Log.Level.ofName?_name] at hname
        cases hname
      | some level => simp [hn, hname] at h

theorem iterationsOf_eq_ok (n : Int) (h : iterationsOf env = .ok n) :
    Text.Integer.digits n ≤ Text.Integer.digitLimit := by
  have hdefault : Text.Integer.digits defaultIterations ≤ Text.Integer.digitLimit := by decide +kernel
  unfold iterationsOf at h
  cases hgiven : setting env iterationsVariable with
  | none =>
    simp only [hgiven, Except.ok.injEq] at h
    exact h ▸ hdefault
  | some text =>
    cases hread : Text.Integer.read? text with
    | none => simp [hgiven, hread] at h
    | some m =>
      simp only [hgiven, hread, Except.ok.injEq] at h
      exact h ▸ Text.Integer.digits_of_read? text m hread

/-- The target of a configuration that is read has no blanks around it, and there is one. -/
theorem parser_of_ofEnvironment (c : Config) (h : ofEnvironment env = .ok c) :
    c.parser ≠ "" ∧ Text.Trimmed Text.isBlank c.parser.toList := by
  obtain ⟨-, -, hparser, -⟩ := (ofEnvironment_eq_ok_iff env c).mp h
  rw [← hparser]
  cases hgiven : setting env parserVariable with
  | none =>
    have hblank : (defaultParser.toList.all fun c => !Text.isBlank c) = true := by decide +kernel
    exact ⟨by decide, Text.trimmed_of_all Text.isBlank _ hblank⟩
  | some text => exact setting_eq_some env parserVariable text hgiven

end

section

variable (c : Config)

theorem toEnvironment_target : c.toEnvironment parserVariable = some c.parser := rfl

theorem toEnvironment_iterations :
    c.toEnvironment iterationsVariable = some (String.ofList (Text.Numeral.ofInt c.iterations)) := by
  have hother : ¬ iterationsVariable = parserVariable := by decide
  simp [toEnvironment, hother]

theorem toEnvironment_level : c.toEnvironment levelVariable = some c.level.name := by
  have hparser : ¬ levelVariable = parserVariable := by decide
  have hiterations : ¬ levelVariable = iterationsVariable := by decide
  simp [toEnvironment, hparser, hiterations]

theorem level_name_settled (level : Log.Level) :
    level.name ≠ "" ∧ Text.Trimmed Text.isBlank level.name.toList ∧ Text.upper level.name = level.name := by
  have hblank : (level.name.toList.all fun c => !Text.isBlank c) = true := by cases level <;> decide +kernel
  have hupper : Text.upper level.name = level.name := by cases level <;> decide +kernel
  exact ⟨by cases level <;> decide, Text.trimmed_of_all Text.isBlank _ hblank, hupper⟩

/-- Whatever configuration is written, the same one is read, if it can be written within the limits of what is read. -/
theorem ofEnvironment_toEnvironment (hn : 1 ≤ c.iterations)
    (hdigits : Text.Integer.digits c.iterations ≤ Text.Integer.digitLimit) (hne : c.parser ≠ "")
    (htrimmed : Text.Trimmed Text.isBlank c.parser.toList) : ofEnvironment c.toEnvironment = .ok c := by
  have hparser := setting_of_trimmed _ _ _ (toEnvironment_target c) hne htrimmed
  obtain ⟨hname, hlevel, hupper⟩ := level_name_settled c.level
  have hlevel := setting_of_trimmed _ _ _ (toEnvironment_level c) hname hlevel
  have hnumeral : setting c.toEnvironment iterationsVariable
      = some (String.ofList (Text.Numeral.ofInt c.iterations)) := by
    apply setting_of_trimmed _ _ _ (toEnvironment_iterations c)
    · intro hnil
      have hlist := congrArg String.toList hnil
      simp [Text.Numeral.ofInt_ne_nil] at hlist
    · rw [String.toList_ofList]
      exact Text.Numeral.trimmed_ofInt c.iterations
  have hiterations : iterationsOf c.toEnvironment = .ok c.iterations := by
    simp only [iterationsOf, hnumeral, Text.Integer.read?_ofInt c.iterations hdigits]
  rw [ofEnvironment_eq_ok_iff, hparser, hlevel]
  exact ⟨hiterations, hn, rfl, hupper⟩

end

/-- Every environment is read as a configuration that is in order and survives being written and read again, or it is
refused for a value that is named. Blanks around the three values change neither the configuration nor the problem. -/
theorem environment_read_stably (env : Environment) :
    (∀ c, ofEnvironment env = .ok c →
      1 ≤ c.iterations ∧
      c.level.name ∈ ["CRITICAL", "FATAL", "ERROR", "WARN", "WARNING", "INFO", "DEBUG", "NOTSET"] ∧
      c.parser ≠ "" ∧
      (∀ x ∈ c.parser.toList.head?, Text.isBlank x = false) ∧ (∀ x ∈ c.parser.toList.getLast?, Text.isBlank x = false) ∧
      ofEnvironment c.toEnvironment = .ok c) ∧
    (∀ problem, ofEnvironment env = .error problem → Rejects env problem) ∧
    ∀ env' : Environment,
      (∀ name ∈ [parserVariable, iterationsVariable, levelVariable], Respaced (env name) (env' name)) →
      ofEnvironment env' = ofEnvironment env := by
  refine ⟨?_, rejects_of_ofEnvironment env, ?_⟩
  · intro c h
    obtain ⟨hread, hn, -, -⟩ := (ofEnvironment_eq_ok_iff env c).mp h
    obtain ⟨hne, htrimmed⟩ := parser_of_ofEnvironment env c h
    have hagain := ofEnvironment_toEnvironment c hn (iterationsOf_eq_ok env c.iterations hread) hne htrimmed
    have hname : c.level.name ∈ ["CRITICAL", "FATAL", "ERROR", "WARN", "WARNING", "INFO", "DEBUG", "NOTSET"] := by
      cases c.level <;> decide
    exact ⟨hn, hname, hne, htrimmed.head, htrimmed.last, hagain⟩
  · intro env' h
    have hparser := setting_congr env parserVariable env' (h _ (by simp))
    have hiterations := setting_congr env iterationsVariable env' (h _ (by simp))
    have hlevel := setting_congr env levelVariable env' (h _ (by simp))
    simp only [ofEnvironment, iterationsOf, hparser, hiterations, hlevel]

/-- Values in other scripts and letters, with blanks of several kinds around them, and the same values without. -/
theorem environment_read_stably_scripts :
    let env : Environment := fun name =>
      if name = parserVariable then some "\u3000 mod:Class\u001c"
      else if name = iterationsVariable then some "\t+\u0660_\u0967\u2003"
      else if name = levelVariable then some "warn\u0131ng" else none
    let env' : Environment := fun name =>
      if name = parserVariable then some "mod:Class"
      else if name = iterationsVariable then some "\u0085+\u0660_\u0967"
      else if name = levelVariable then some "\nwarn\u0131ng\r" else none
    ofEnvironment env = .ok ⟨"mod:Class", 1, .warning⟩ ∧
    ofEnvironment (toEnvironment ⟨"mod:Class", 1, .warning⟩) = .ok ⟨"mod:Class", 1, .warning⟩ ∧
    ofEnvironment env' = ofEnvironment env := by
  intro env env'
  have hread : ofEnvironment env = .ok ⟨"mod:Class", 1, .warning⟩ := by decide +kernel
  obtain ⟨hstable, -, hrespaced⟩ := environment_read_stably env
  obtain ⟨-, -, -, -, -, hagain⟩ := hstable _ hread
  refine ⟨hread, hagain, hrespaced env' ?_⟩
  intro name hname
  simp only [List.mem_cons, List.not_mem_nil, or_false] at hname
  rcases hname with hname | hname | hname
  · have hpadded := Respaced.padded ['\u3000', ' '] "mod:Class".toList ['\u001c']
      (List.all_eq_true.mp (by decide)) (List.all_eq_true.mp (by decide))
    rw [hname]
    exact hpadded.symm
  · have hbare := Respaced.padded ['\t'] "+\u0660_\u0967".toList ['\u2003']
      (List.all_eq_true.mp (by decide)) (List.all_eq_true.mp (by decide))
    have hpadded := Respaced.padded ['\u0085'] "+\u0660_\u0967".toList []
      (List.all_eq_true.mp (by decide)) (List.all_eq_true.mp (by decide))
    rw [hname]
    exact hbare.symm.trans hpadded
  · have hpadded := Respaced.padded ['\n'] "warn\u0131ng".toList ['\r']
      (List.all_eq_true.mp (by decide)) (List.all_eq_true.mp (by decide))
    rw [hname]
    exact hpadded

end EventBench.Config
