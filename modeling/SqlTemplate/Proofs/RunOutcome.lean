import SqlTemplate.Command
import SqlTemplate.Proofs.FilterReading
import SqlTemplate.Proofs.PolicyAgreement

/-! # The outcome of a run

A run takes its policy and its template from the first of several places that gives one. Its exit
code and its output depend on these and the format only, and there is no output when it fails.
At a terminal a run that would take its template from the input ends at once, and a log filter that
cannot be read to its end breaks off any run.
-/
namespace SqlTemplate

theorem decodeUtf8_eq_ok_iff {bytes : ByteArray} {t : Text} :
    decodeUtf8 bytes = .ok t ↔ bytes = t.utf8Encode := by
  rw [decodeUtf8, String.fromUTF8?]
  constructor
  · intro h
    by_cases hvalid : bytes.IsValidUTF8
    · rw [dif_pos hvalid] at h
      obtain rfl := Except.ok.inj h
      exact (String.utf8Encode_toList (b := String.fromUTF8 bytes hvalid)).symm
    · rw [dif_neg hvalid] at h
      cases h
  · rintro rfl
    have hvalid : t.utf8Encode.IsValidUTF8 := ⟨t, rfl⟩
    have hs : String.fromUTF8 t.utf8Encode hvalid = String.ofList t :=
      String.toByteArray_inj.mp String.toByteArray_ofList.symm
    rw [dif_pos hvalid, hs]
    exact congrArg Except.ok String.toList_ofList

namespace Command

/-- The bytes of a file or of the input, if they can be read. -/
abbrev Content := Except FileError ByteArray

/-- The content is a text in UTF-8. -/
def Content.Holds (content : Content) (t : Text) : Prop := content = .ok t.utf8Encode

/-- Files and input are decoded as they are read. -/
def Surroundings.ofContents (file : Text → Content) (input : Content) (filter : Option Text) :
    Surroundings :=
  ⟨fun path => file path >>= decodeUtf8, .content (input >>= decodeUtf8), filter⟩

/-- Files are decoded as they are read, and the input is a terminal. -/
def Surroundings.atTerminal (file : Text → Content) (filter : Option Text) : Surroundings :=
  ⟨fun path => file path >>= decodeUtf8, .terminal, filter⟩

theorem Content.bind_decodeUtf8_eq_ok_iff {content : Content} {t : Text} :
    content >>= decodeUtf8 = .ok t ↔ content.Holds t := by
  cases content with
  | error e => simp [Content.Holds, bind, Except.bind]
  | ok bytes => simp [Content.Holds, bind, Except.bind, decodeUtf8_eq_ok_iff]

namespace Arguments

variable (a : Arguments) (file : Text → Content) (input : Content)

/-- The settings of a run, if it has any, are those in the file given. -/
inductive Loads : Option Settings → Prop where
  | none (noConfig : a.config = none) : Loads none
  | some {path document : Text} {settings : Settings} (config : a.config = some path)
      (holds : (file path).Holds document) (accepted : Settings.ofText document = .ok settings) :
      Loads (some settings)

/-- The template of a run is the one given, or else in the input file, in the settings, or in the
input. -/
inductive Takes : Option Settings → Text → Prop where
  | given {settings : Option Settings} {t : Text} (sql : a.sql = some t) : Takes settings t
  | file {settings : Option Settings} {path t : Text} (noSql : a.sql = none)
      (given : a.input = some path) (holds : (file path).Holds t) : Takes settings t
  | settings {settings : Settings} (noSql : a.sql = none) (noPath : a.input = none) :
      Takes (some settings) settings.template
  | input {t : Text} (noSql : a.sql = none) (noPath : a.input = none)
      (holds : input.Holds t) : Takes none t

/-- The policy given, or else that of the settings, or else the default. -/
def policyOver (settings : Option Settings) : Policy :=
  match a.unterminated, settings with
  | some policy, _ => policy
  | none, some settings => settings.policy
  | none, none => .verbatim

inductive Prepares (s : Statement) : Prop where
  | intro {settings : Option Settings} {t : Text} (loads : a.Loads file settings)
      (takes : a.Takes file input settings t)
      (prepared : prepare (a.policyOver settings) t = .ok s) : Prepares s

inductive Fails : Prop where
  /-- The file with settings is unreadable, not text, or refused, whatever else is given. -/
  | settings {path : Text} (config : a.config = some path)
      (refused : ∀ document settings, (file path).Holds document →
        Settings.ofText document ≠ .ok settings)
  | file {path : Text} (noSql : a.sql = none) (given : a.input = some path)
      (unreadable : ∀ t, ¬ (file path).Holds t)
  | input (noSql : a.sql = none) (noPath : a.input = none) (noConfig : a.config = none)
      (unreadable : ∀ t, ¬ input.Holds t)
  | openLiteral {settings : Option Settings} {t : Text} (loads : a.Loads file settings)
      (takes : a.Takes file input settings t) (reject : a.policyOver settings = .reject)
      (odd : Odd (t.count quote))

variable {a file input} {filter : Option Text}

theorem settings_eq_ok_iff {settings : Option Settings} :
    a.settings (.ofContents file input filter) = .ok settings ↔ a.Loads file settings := by
  constructor
  · intro h
    cases hc : a.config with
    | none =>
      simp only [Arguments.settings, hc, Except.ok.injEq] at h
      subst h
      exact .none hc
    | some path =>
      cases hf : (Surroundings.ofContents file input filter).file path with
      | error e => simp [Arguments.settings, hc, hf, Settings.ofFile] at h
      | ok document =>
        have hholds : (file path).Holds document := Content.bind_decodeUtf8_eq_ok_iff.mp hf
        cases ha : Settings.ofText document with
        | error e => simp [Arguments.settings, hc, hf, Settings.ofFile, ha] at h
        | ok s =>
          simp only [Arguments.settings, hc, hf, Settings.ofFile, ha, Except.ok.injEq] at h
          subst h
          exact .some hc hholds ha
  · intro h
    cases h with
    | none noConfig => rw [Arguments.settings, noConfig]
    | some config holds accepted =>
      have hfile : (Surroundings.ofContents file input filter).file _ = .ok _ :=
        Content.bind_decodeUtf8_eq_ok_iff.mpr holds
      rw [Arguments.settings, config]
      simp only [hfile, Settings.ofFile, accepted]

theorem source_eq_ok_iff {settings : Option Settings} {t : Text} :
    (∃ name, a.source (.ofContents file input filter) settings = .ok ⟨t, name⟩) ↔
      a.Takes file input settings t := by
  constructor
  · rintro ⟨name, h⟩
    cases hs : a.sql with
    | some sql =>
      simp only [Arguments.source, hs, Except.ok.injEq, Source.mk.injEq] at h
      obtain ⟨rfl, -⟩ := h
      exact .given hs
    | none =>
      cases hi : a.input with
      | some path =>
        cases hf : (Surroundings.ofContents file input filter).file path with
        | error e => simp [Arguments.source, hs, hi, hf] at h
        | ok content =>
          simp only [Arguments.source, hs, hi, hf, Except.ok.injEq, Source.mk.injEq] at h
          obtain ⟨rfl, -⟩ := h
          exact .file hs hi (Content.bind_decodeUtf8_eq_ok_iff.mp hf)
      | none =>
        cases settings with
        | some settings =>
          simp only [Arguments.source, hs, hi, Except.ok.injEq, Source.mk.injEq] at h
          obtain ⟨rfl, -⟩ := h
          exact .settings hs hi
        | none =>
          cases hf : input >>= decodeUtf8 with
          | error e => simp [Arguments.source, Surroundings.ofContents, hs, hi, hf] at h
          | ok content =>
            simp only [Arguments.source, Surroundings.ofContents, hs, hi, hf, Except.ok.injEq,
              Source.mk.injEq] at h
            obtain ⟨rfl, -⟩ := h
            exact .input hs hi (Content.bind_decodeUtf8_eq_ok_iff.mp hf)
  · intro h
    cases h with
    | given sql => exact ⟨_, by simp only [Arguments.source, sql]; rfl⟩
    | file noSql given holds =>
      have hfile : (Surroundings.ofContents file input filter).file _ = .ok _ :=
        Content.bind_decodeUtf8_eq_ok_iff.mpr holds
      exact ⟨_, by simp only [Arguments.source, noSql, given, hfile]; rfl⟩
    | settings noSql noPath => exact ⟨_, by simp only [Arguments.source, noSql, noPath]; rfl⟩
    | input noSql noPath holds =>
      have hinput : (Surroundings.ofContents file input filter).input = .content (.ok _) :=
        congrArg Input.content (Content.bind_decodeUtf8_eq_ok_iff.mpr holds)
      exact ⟨_, by simp only [Arguments.source, noSql, noPath, hinput]; rfl⟩

theorem policy_eq_policyOver (settings : Option Settings) :
    a.policy settings = a.policyOver settings := by
  cases hu : a.unterminated with
  | some policy => simp [Arguments.policy, policyOver, hu]
  | none =>
    cases settings with
    | some settings => simp [Arguments.policy, policyOver, hu]
    | none =>
      simp only [Arguments.policy, policyOver, hu]
      rfl

theorem statement_eq_ok_iff {s : Statement} :
    (∃ source, a.statement (.ofContents file input filter) = .ok (s, source)) ↔
      a.Prepares file input s := by
  constructor
  · rintro ⟨source, h⟩
    cases hs : a.settings (.ofContents file input filter) with
    | error e => simp [statement, resolve, hs, bind, Except.bind] at h
    | ok settings =>
      cases hsource : a.source (.ofContents file input filter) settings with
      | error e => simp [statement, resolve, hs, hsource, bind, Except.bind] at h
      | ok source' =>
        cases hp : prepare (a.policy settings) source'.template with
        | error e =>
          simp [statement, resolve, hs, hsource, hp, bind, Except.bind, pure, Except.pure, throw,
            throwThe, MonadExceptOf.throw] at h
        | ok s' =>
          simp only [statement, resolve, hs, hsource, hp, bind, Except.bind, pure, Except.pure,
            Except.ok.injEq, Prod.mk.injEq] at h
          obtain ⟨rfl, rfl⟩ := h
          rw [policy_eq_policyOver] at hp
          exact .intro (settings_eq_ok_iff.mp hs) (source_eq_ok_iff.mp ⟨_, hsource⟩) hp
  · rintro @⟨settings, t, loads, takes, prepared⟩
    have hs : a.settings (.ofContents file input filter) = .ok settings :=
      settings_eq_ok_iff.mpr loads
    obtain ⟨name, hsource⟩ :
        ∃ name, a.source (.ofContents file input filter) settings = .ok ⟨t, name⟩ :=
      source_eq_ok_iff.mpr takes
    rw [← policy_eq_policyOver] at prepared
    refine ⟨⟨t, name⟩, ?_⟩
    simp only [statement, resolve, hs, hsource, prepared, bind, Except.bind, pure, Except.pure]

/-- There is a filter unless reading the one that is set breaks off. -/
theorem exists_filter?_iff {w : Surroundings} :
    (∃ f, a.filter? w = some f) ↔ Log.Filter.Answers w.filter := by
  rw [filter?]
  cases hw : w.filter with
  | none => simp [Log.Filter.answers_none]
  | some t =>
    rw [Log.Filter.answers_some_iff, Log.Completes, Option.map_some]
    cases Log.Filter.read t with
    | ok f => simp
    | error e => cases e <;> simp

theorem run_of_not_answers {w : Surroundings} (h : ¬ Log.Filter.Answers w.filter) :
    a.run w = .brokenOff := by
  cases hf : a.filter? w with
  | none => rw [run, hf]
  | some f => exact absurd (exists_filter?_iff.mp ⟨f, hf⟩) h

theorem run_of_statement_eq_ok {w : Surroundings} {s : Statement} {source : Source}
    (hw : Log.Filter.Answers w.filter) (h : a.statement w = .ok (s, source)) :
    (a.run w).code = 0 ∧ (a.run w).output = s.write a.format := by
  obtain ⟨f, hf⟩ : ∃ f, a.filter? w = some f := exists_filter?_iff.mpr hw
  simp [run, hf, h]

theorem run_of_statement_eq_error {w : Surroundings} {failure : Failure}
    (hw : Log.Filter.Answers w.filter) (h : a.statement w = .error failure) :
    (a.run w).code = failure.code ∧ (a.run w).output = [] := by
  obtain ⟨f, hf⟩ : ∃ f, a.filter? w = some f := exists_filter?_iff.mpr hw
  simp [run, hf, h]

theorem run_of_prepares (hfilter : Log.Filter.Answers filter) {s : Statement}
    (h : a.Prepares file input s) :
    (a.run (.ofContents file input filter)).code = 0 ∧
      (a.run (.ofContents file input filter)).output = s.write a.format := by
  obtain ⟨source, hs⟩ : ∃ source, a.statement (.ofContents file input filter) = .ok (s, source) :=
    statement_eq_ok_iff.mpr h
  exact run_of_statement_eq_ok hfilter hs

theorem code_of_settings_eq_error {w : Surroundings} {failure : Failure}
    (h : a.settings w = .error failure) : failure.code = 1 := by
  rw [Arguments.settings] at h
  split at h
  · cases h
  · split at h
    · cases h
    · cases h
      rfl

theorem code_of_source_eq_error {settings : Option Settings} {failure : Failure}
    (h : a.source (.ofContents file input filter) settings = .error failure) :
    failure.code = 1 := by
  unfold Arguments.source at h
  split at h
  · cases h
  · split at h
    · cases h
    · cases h
      rfl
  · cases h
  · rw [Surroundings.ofContents] at h
    dsimp only at h
    split at h
    · next hinput => cases hinput
    · cases h
    · cases h
      rfl

/-- Where the input is no terminal every failure has the same code. -/
theorem code_of_statement_eq_error {failure : Failure}
    (h : a.statement (.ofContents file input filter) = .error failure) : failure.code = 1 := by
  cases hsettings : a.settings (.ofContents file input filter) with
  | error f =>
    rw [statement, resolve, hsettings] at h
    cases h
    exact code_of_settings_eq_error hsettings
  | ok settings =>
    cases hsource : a.source (.ofContents file input filter) settings with
    | error f =>
      simp only [statement, resolve, hsettings, hsource, bind, Except.bind, Except.error.injEq] at h
      subst h
      exact code_of_source_eq_error hsource
    | ok source =>
      simp only [statement, resolve, hsettings, hsource, bind, Except.bind, pure, Except.pure] at h
      split at h
      · cases h
      · cases h
        rfl

theorem run_of_not_prepares (hfilter : Log.Filter.Answers filter)
    (h : ∀ s, ¬ a.Prepares file input s) :
    (a.run (.ofContents file input filter)).code = 1 ∧
      (a.run (.ofContents file input filter)).output = [] := by
  cases hs : a.statement (.ofContents file input filter) with
  | error failure =>
    obtain ⟨hcode, houtput⟩ := run_of_statement_eq_error hfilter hs
    exact ⟨hcode.trans (code_of_statement_eq_error hs), houtput⟩
  | ok r => exact absurd (statement_eq_ok_iff.mp ⟨r.2, hs⟩) (h r.1)

theorem Loads.unique {settings settings' : Option Settings} (h : a.Loads file settings)
    (h' : a.Loads file settings') : settings = settings' := by
  let w : Surroundings := .ofContents file (.ok .empty) Option.none
  have hs : a.settings w = .ok settings := settings_eq_ok_iff.mpr h
  have hs' : a.settings w = .ok settings' := settings_eq_ok_iff.mpr h'
  exact Except.ok.inj (hs.symm.trans hs')

theorem Takes.unique {settings : Option Settings} {t t' : Text}
    (h : a.Takes file input settings t) (h' : a.Takes file input settings t') : t = t' := by
  let w : Surroundings := .ofContents file input none
  obtain ⟨name, hs⟩ : ∃ name, a.source w settings = .ok ⟨t, name⟩ := source_eq_ok_iff.mpr h
  obtain ⟨name', hs'⟩ : ∃ name, a.source w settings = .ok ⟨t', name⟩ := source_eq_ok_iff.mpr h'
  exact congrArg Source.template (Except.ok.inj (hs.symm.trans hs'))

theorem Fails.not_prepares (h : a.Fails file input) (s : Statement) :
    ¬ a.Prepares file input s := by
  rintro ⟨loads, takes, prepared⟩
  cases h with
  | settings config refused =>
    cases loads with
    | none noConfig => simp [config] at noConfig
    | some config' holds accepted =>
      obtain rfl := Option.some.inj (config.symm.trans config')
      exact refused _ _ holds accepted
  | file noSql given unreadable =>
    cases takes with
    | given sql => simp [noSql] at sql
    | file _ given' holds =>
      obtain rfl := Option.some.inj (given.symm.trans given')
      exact unreadable _ holds
    | settings _ noPath => simp [given] at noPath
    | input _ noPath => simp [given] at noPath
  | input noSql noPath noConfig unreadable =>
    cases takes with
    | given sql => simp [noSql] at sql
    | file _ given => simp [noPath] at given
    | settings =>
      cases loads with
      | some config => simp [noConfig] at config
    | input _ _ holds => exact unreadable _ holds
  | openLiteral loads' takes' reject odd =>
    obtain rfl := loads.unique loads'
    obtain rfl := takes.unique takes'
    obtain ⟨e, he⟩ := (Statement.exists_prepare_eq_error_iff _ _).mpr ⟨reject, odd⟩
    rw [prepared] at he
    cases he

theorem fails_of_not_prepares (h : ∀ s, ¬ a.Prepares file input s) : a.Fails file input := by
  by_cases hl : ∃ settings, a.Loads file settings
  · obtain ⟨settings, loads⟩ := hl
    by_cases ht : ∃ t, a.Takes file input settings t
    · obtain ⟨t, takes⟩ := ht
      by_cases hp : a.policyOver settings = .reject ∧ Odd (t.count quote)
      · exact .openLiteral loads takes hp.1 hp.2
      · exact absurd ⟨loads, takes, Statement.prepare_eq_ok _ _ hp⟩ (h _)
    · cases hs : a.sql with
      | some t => exact absurd ⟨t, .given hs⟩ ht
      | none =>
        cases hi : a.input with
        | some path => exact .file hs hi fun t holds => ht ⟨t, .file hs hi holds⟩
        | none =>
          cases loads with
          | none noConfig =>
            exact .input hs hi noConfig fun t holds => ht ⟨t, .input hs hi holds⟩
          | some => exact absurd ⟨_, .settings hs hi⟩ ht
  · cases hc : a.config with
    | none => exact absurd ⟨none, .none hc⟩ hl
    | some path =>
      exact .settings hc fun document settings holds accepted =>
        hl ⟨some settings, .some hc holds accepted⟩

theorem fails_iff_run (hfilter : Log.Filter.Answers filter) : a.Fails file input ↔
    (a.run (.ofContents file input filter)).code = 1 ∧
      (a.run (.ofContents file input filter)).output = [] := by
  constructor
  · intro hf
    exact run_of_not_prepares hfilter hf.not_prepares
  · intro hcode
    apply fails_of_not_prepares
    intro s hs
    have hzero := (run_of_prepares hfilter hs).1
    rw [hcode.1] at hzero
    cases hzero

theorem run_of_not_fails (hfilter : Log.Filter.Answers filter) (h : ¬ a.Fails file input) :
    ∃ settings t s, a.Loads file settings ∧ a.Takes file input settings t ∧
      prepare (a.policyOver settings) t = .ok s ∧
      (a.run (.ofContents file input filter)).code = 0 ∧
      (a.format = .text → (a.run (.ofContents file input filter)).output = s.listing) ∧
      (a.format = .toml → (a.run (.ofContents file input filter)).output = s.toToml) := by
  by_cases hp : ∃ s, a.Prepares file input s
  · obtain ⟨s, hs⟩ := hp
    obtain ⟨hcode, houtput⟩ := run_of_prepares hfilter hs
    obtain ⟨loads, takes, prepared⟩ := hs
    refine ⟨_, _, s, loads, takes, prepared, hcode, fun hformat => ?_, fun hformat => ?_⟩
    · rw [houtput, hformat, Statement.write]
    · rw [houtput, hformat, Statement.write]
  · exact absurd (fails_of_not_prepares fun s hs => hp ⟨s, hs⟩) h

/-- The same but for how much is told besides the output. -/
def Alike (a a' : Arguments) : Prop :=
  { a with explain := a'.explain, verbosity := a'.verbosity } = a'

/-- Files and inputs in which a run finds the same. A template in the settings, the input file or
the input counts only where the run takes it. -/
structure SameFindings (a : Arguments) (file file' : Text → Content) (input input' : Content) :
    Prop where
  policy : ∀ policy, (∃ settings, a.Loads file settings ∧ settings.map Settings.policy = policy) ↔
    ∃ settings, a.Loads file' settings ∧ settings.map Settings.policy = policy
  settings : a.sql = none → a.input = none → ∀ settings,
    a.Loads file settings ↔ a.Loads file' settings
  file : a.sql = none → ∀ path, a.input = some path → ∀ t,
    (file path).Holds t ↔ (file' path).Holds t
  input : a.sql = none → a.input = none → a.config = none → ∀ t, input.Holds t ↔ input'.Holds t

variable {file' : Text → Content} {input' : Content}

theorem SameFindings.symm (h : a.SameFindings file file' input input') :
    a.SameFindings file' file input' input where
  policy p := (h.policy p).symm
  settings hs hi s := (h.settings hs hi s).symm
  file hs path hi t := (h.file hs path hi t).symm
  input hs hi hc t := (h.input hs hi hc t).symm

theorem policyOver_congr {settings settings' : Option Settings}
    (h : settings'.map Settings.policy = settings.map Settings.policy) :
    a.policyOver settings' = a.policyOver settings := by
  rw [← policy_eq_policyOver, ← policy_eq_policyOver, Arguments.policy, Arguments.policy, h]

theorem Prepares.of_sameFindings (h : a.SameFindings file file' input input') {s : Statement}
    (hs : a.Prepares file input s) : a.Prepares file' input' s := by
  obtain ⟨loads, takes, prepared⟩ := hs
  obtain ⟨settings', loads', hpolicy⟩ := (h.policy _).mp ⟨_, loads, rfl⟩
  have prepared' := prepared
  rw [← policyOver_congr hpolicy] at prepared'
  cases takes with
  | given sql => exact ⟨loads', .given sql, prepared'⟩
  | file noSql given holds =>
    exact ⟨loads', .file noSql given ((h.file noSql _ given _).mp holds), prepared'⟩
  | settings noSql noPath =>
    exact ⟨(h.settings noSql noPath _).mp loads, .settings noSql noPath, prepared⟩
  | input noSql noPath holds =>
    cases loads with
    | none noConfig =>
      exact ⟨.none noConfig, .input noSql noPath ((h.input noSql noPath noConfig _).mp holds),
        prepared⟩

theorem run_alike {a' : Arguments} (ha : a.Alike a') {filter' : Option Text}
    (hfilter : Log.Filter.Answers filter) (hfilter' : Log.Filter.Answers filter') :
    (a'.run (.ofContents file input filter')).code = (a.run (.ofContents file input filter)).code ∧
      (a'.run (.ofContents file input filter')).output =
        (a.run (.ofContents file input filter)).output := by
  have hstatement : a'.statement (.ofContents file input filter') =
      a.statement (.ofContents file input filter) := by
    rw [← ha]
    rfl
  have hformat : a'.format = a.format := by rw [← ha]
  cases hs : a.statement (.ofContents file input filter) with
  | error failure =>
    obtain ⟨hcode, houtput⟩ := run_of_statement_eq_error hfilter hs
    obtain ⟨hcode', houtput'⟩ := run_of_statement_eq_error hfilter' (hstatement.trans hs)
    exact ⟨hcode'.trans hcode.symm, houtput'.trans houtput.symm⟩
  | ok r =>
    obtain ⟨hcode, houtput⟩ := run_of_statement_eq_ok hfilter hs
    obtain ⟨hcode', houtput'⟩ := run_of_statement_eq_ok hfilter' (hstatement.trans hs)
    rw [hformat] at houtput'
    exact ⟨hcode'.trans hcode.symm, houtput'.trans houtput.symm⟩

theorem run_of_sameFindings (hfilter : Log.Filter.Answers filter)
    (h : a.SameFindings file file' input input') :
    (a.run (.ofContents file' input' filter)).code = (a.run (.ofContents file input filter)).code ∧
      (a.run (.ofContents file' input' filter)).output =
        (a.run (.ofContents file input filter)).output := by
  by_cases hp : ∃ s, a.Prepares file input s
  · obtain ⟨s, hs⟩ := hp
    obtain ⟨hcode, houtput⟩ := run_of_prepares hfilter hs
    obtain ⟨hcode', houtput'⟩ := run_of_prepares hfilter (hs.of_sameFindings h)
    exact ⟨hcode'.trans hcode.symm, houtput'.trans houtput.symm⟩
  · have hnot (s : Statement) : ¬ a.Prepares file input s := fun hs => hp ⟨s, hs⟩
    have hnot' (s : Statement) : ¬ a.Prepares file' input' s := fun hs =>
      hnot s (hs.of_sameFindings h.symm)
    obtain ⟨hcode, houtput⟩ := run_of_not_prepares hfilter hnot
    obtain ⟨hcode', houtput'⟩ := run_of_not_prepares hfilter hnot'
    exact ⟨hcode'.trans hcode.symm, houtput'.trans houtput.symm⟩

theorem run_at_terminal (hfilter : Log.Filter.Answers filter) (h : a.readsInput = true) :
    (a.run (.atTerminal file filter)).code = 2 ∧ (a.run (.atTerminal file filter)).output = [] := by
  obtain ⟨⟨hsql, hpath⟩, hconfig⟩ : (a.sql = none ∧ a.input = none) ∧ a.config = none := by
    simpa [readsInput] using h
  have hs : a.statement (.atTerminal file filter) = .error .noTemplate := by
    simp [statement, resolve, settings, source, Surroundings.atTerminal, hsql, hpath, hconfig,
      bind, Except.bind]
  exact run_of_statement_eq_error hfilter hs

/-- The input is not looked at unless the template is taken from it. -/
theorem resolve_at_terminal (h : a.readsInput = false) :
    a.resolve (.atTerminal file filter) = a.resolve (.ofContents file input filter) := by
  have hsettings : a.settings (.atTerminal file filter) =
      a.settings (.ofContents file input filter) := rfl
  rw [resolve, resolve, hsettings]
  cases hload : a.settings (.ofContents file input filter) with
  | error failure => rfl
  | ok settings =>
    have hsource : a.source (.atTerminal file filter) settings =
        a.source (.ofContents file input filter) settings := by
      unfold Arguments.source
      split
      · rfl
      · rfl
      · rfl
      · next hsql hpath =>
        cases settings_eq_ok_iff.mp hload with
        | none noConfig => simp [readsInput, hsql, hpath, noConfig] at h
    simp only [bind, Except.bind, hsource]

theorem run_at_terminal_eq (h : a.readsInput = false) :
    a.run (.atTerminal file filter) = a.run (.ofContents file input filter) := by
  have hresolve : a.resolve (.atTerminal file filter) = a.resolve (.ofContents file input filter) :=
    resolve_at_terminal h
  have hevents : a.events (.atTerminal file filter) = a.events (.ofContents file input filter) := by
    rw [events, events, hresolve]
  have hstatement : a.statement (.atTerminal file filter) =
      a.statement (.ofContents file input filter) := by
    rw [statement, statement, hresolve]
  rw [run, run, hevents, hstatement]
  rfl

end Arguments

end Command
end SqlTemplate
