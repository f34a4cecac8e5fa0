import SqlTemplate.Proofs.Rejection
import SqlTemplate.Proofs.RunOutcome

/-! # The log of a run

A run logs that it loads settings, that its template leaves a literal open, and what it has found in
the template. Without a filter the warning is always logged and the rest when more is asked for.
Whether the template is refused in the end makes no difference.
-/
namespace SqlTemplate

namespace Log

variable (policy : Policy)

theorem Event.line_loading (path : Text) : (Event.loading path).line =
    " DEBUG loading appender config path=".toList ++ path ++ ['\n'] := by
  unfold line loading Level.name
  simp

theorem Event.line_openLiteral (start : Nat) : (Event.openLiteral start policy).line =
    "  WARN SQL template ends inside a string literal start=".toList ++ Text.decimal start ++
      " policy=".toList ++ policyTitle policy ++ ['\n'] := by
  unfold line openLiteral Level.name
  simp

theorem Event.line_prepared (s : Statement) : (Event.prepared s).line =
    " DEBUG parsed SQL template segments=".toList ++ Text.decimal s.segments.length ++
      " placeholders=".toList ++ Text.decimal s.placeholderCount ++ ['\n'] := by
  unfold line prepared Level.name
  simp

theorem Event.line_ne_nil (e : Event) : e.line ≠ [] := by
  rw [line]
  exact List.concat_ne_nil _ _

theorem Filter.admits_upTo (l : Level) (e : Event) :
    (upTo l).admits e = decide (e.level.verbosity ≤ l.verbosity) := by
  simp [admits, decisive?, upTo, Directive.appliesTo]

end Log

theorem Token.isSome_pattern? (policy : Policy) (u : Token) :
    (u.pattern? policy).isSome = decide (u.kind? policy = some .pattern) := by
  rw [pattern?]
  split
  · next h =>
    cases u with
    | text w => cases h
    | literal c | unterminated c => simp [content?, h]
  · next h => simp [h]

namespace Statement

variable (policy : Policy) (t : Text)

theorem length_segments :
    (ofTemplate policy t).segments.length = (Token.scan t).countP fun u => !u.isText := by
  have htokens := congrArg List.length (Token.map_token_segmentsFrom policy 0 (Token.scan t))
  rwa [List.length_map, ← List.countP_eq_length_filter] at htokens

theorem placeholderCount_ofTemplate : (ofTemplate policy t).placeholderCount =
    (Token.scan t).countP fun u => u.kind? policy = some .pattern := by
  simp only [placeholderCount, patterns_ofTemplate_eq_filterMap, List.length_filterMap_eq_countP,
    Token.isSome_pattern?]

end Statement

theorem OpenLiteral.Locates.openSpan_eq {e : OpenLiteral} {t front : Text} (h : e.Locates t front)
    (policy : Policy) : (Statement.ofTemplate policy t).openSpan = some e.span := by
  rw [h.ofTemplate_eq, h.span_openSegmentAfter]

namespace Command

open Log

namespace Arguments

variable {a : Arguments} {file : Text → Content} {input : Content} {settings : Option Settings}
  {t : Text}

theorem filter?_of_none (w : Surroundings) (hw : w.filter = none) :
    a.filter? w = some (Filter.upTo a.level) := by
  rw [filter?, hw]
  rfl

theorem admits_of_warn {e : Event} (he : e.level = .warn) :
    (Filter.upTo a.level).admits e = true := by
  have hlevel : Level.warn.verbosity ≤ a.level.verbosity := by
    rw [level]
    split <;> decide
  simpa [Filter.admits_upTo, he] using hlevel

theorem admits_of_debug {e : Event} (he : e.level = .debug) :
    (Filter.upTo a.level).admits e = decide (a.verbosity ≠ 0) := by
  have hlevel : Level.debug.verbosity ≤ a.level.verbosity ↔ a.verbosity ≠ 0 := by
    rw [level]
    split <;> simp_all [Level.verbosity]
  simp [Filter.admits_upTo, he, hlevel]

/-- The events that a run logs only if more is asked for. -/
def whenVerbose (a : Arguments) (es : List Event) : List Event := if a.verbosity = 0 then [] else es

theorem filter_of_warn {es : List Event} (hes : ∀ e ∈ es, e.level = .warn) :
    es.filter (Filter.upTo a.level).admits = es := by
  rw [List.filter_eq_self]
  intro e he
  exact admits_of_warn (hes e he)

theorem filter_of_debug {es : List Event} (hes : ∀ e ∈ es, e.level = .debug) :
    es.filter (Filter.upTo a.level).admits = a.whenVerbose es := by
  rw [whenVerbose]
  split
  · next hv =>
    rw [List.filter_eq_nil_iff]
    intro e he
    simp [admits_of_debug (hes e he), hv]
  · next hv =>
    rw [List.filter_eq_self]
    intro e he
    simp [admits_of_debug (hes e he), hv]

theorem resolve_eq_ok (loads : a.Loads file settings) (takes : a.Takes file input settings t)
    (filter : Option Text) : ∃ name,
      a.resolve (.ofContents file input filter) = .ok (a.policyOver settings, ⟨t, name⟩) := by
  have hsettings : a.settings (.ofContents file input filter) = .ok settings :=
    settings_eq_ok_iff.mpr loads
  obtain ⟨name, hsource⟩ :
      ∃ name, a.source (.ofContents file input filter) settings = .ok ⟨t, name⟩ :=
    source_eq_ok_iff.mpr takes
  refine ⟨name, ?_⟩
  simp only [resolve, hsettings, hsource, policy_eq_policyOver, bind, Except.bind, pure, Except.pure]

theorem log_run (loads : a.Loads file settings) (takes : a.Takes file input settings t) :
    let s := Statement.ofTemplate (a.policyOver settings) t
    (a.run (.ofContents file input none)).log =
      a.whenVerbose (a.config.map Event.loading).toList ++
        (s.openSpan.map fun span => Event.openLiteral span.start (a.policyOver settings)).toList ++
        a.whenVerbose [Event.prepared s] := by
  intro s
  let w : Surroundings := .ofContents file input none
  obtain ⟨name, hresolve⟩ := resolve_eq_ok loads takes none
  have hevents : a.events w = (a.config.map Event.loading).toList ++
      ((s.openSpan.map fun span => Event.openLiteral span.start (a.policyOver settings)).toList ++
        [Event.prepared s]) := by
    rw [events, hresolve]
    rfl
  have hlog : (a.run w).log = (a.events w).filter (Filter.upTo a.level).admits := by
    rw [run, filter?_of_none w rfl]
    dsimp only
    split <;> rfl
  have hloading : ∀ e ∈ (a.config.map Event.loading).toList, e.level = .debug := by
    intro e he
    obtain ⟨path, -, rfl⟩ := Option.map_eq_some_iff.mp (Option.mem_toList.mp he)
    rfl
  have hopen : ∀ e ∈ (s.openSpan.map fun span =>
      Event.openLiteral span.start (a.policyOver settings)).toList, e.level = .warn := by
    intro e he
    obtain ⟨span, -, rfl⟩ := Option.map_eq_some_iff.mp (Option.mem_toList.mp he)
    rfl
  rw [hlog, hevents, List.filter_append, List.filter_append, filter_of_debug hloading,
    filter_of_warn hopen, filter_of_debug (List.forall_mem_singleton.mpr rfl),
    ← List.append_assoc]

theorem log_run_of_even (loads : a.Loads file settings) (takes : a.Takes file input settings t)
    (h : Even (t.count quote)) :
    (a.run (.ofContents file input none)).log =
      a.whenVerbose (a.config.map Event.loading).toList ++
        a.whenVerbose [Event.prepared (Statement.ofTemplate (a.policyOver settings) t)] := by
  have hnone : (Statement.ofTemplate (a.policyOver settings) t).openSpan = none := by
    rw [← Option.not_isSome_iff_eq_none, Statement.isSome_openSpan_iff_odd, Nat.not_odd_iff_even]
    exact h
  rw [log_run loads takes, hnone, Option.map_none, Option.toList_none, List.append_nil]

/-- The literal left open is the one that a refusal would point at, under any policy. -/
theorem log_run_of_odd (loads : a.Loads file settings) (takes : a.Takes file input settings t)
    (h : Odd (t.count quote)) : ∃ e front, OpenLiteral.Locates e t front ∧
      (a.run (.ofContents file input none)).log =
        a.whenVerbose (a.config.map Event.loading).toList ++
          Event.openLiteral front.byteSize (a.policyOver settings) ::
            a.whenVerbose [Event.prepared (Statement.ofTemplate (a.policyOver settings) t)] := by
  obtain ⟨e, he⟩ := (Statement.exists_prepare_eq_error_iff t .reject).mpr ⟨rfl, h⟩
  obtain ⟨front, hfront⟩ := (Statement.prepare_reject_eq_error_iff t e).mp he
  refine ⟨e, front, hfront, ?_⟩
  rw [log_run loads takes, hfront.openSpan_eq, hfront.span_eq, Option.map_some, Option.toList_some,
    List.append_assoc, List.singleton_append]

theorem notice_run (w : Surroundings) (hexplain : a.explain = false) (hcode : (a.run w).code = 0) :
    (a.run w).notice = [] := by
  cases hf : a.filter? w with
  | none =>
    rw [run, hf] at hcode
    cases hcode
  | some f =>
    rw [run, hf] at hcode ⊢
    dsimp only at hcode ⊢
    split at hcode
    · simp [hexplain]
    · next failure _ =>
      cases failure <;> cases hcode

theorem errors_run_eq_nil_iff (loads : a.Loads file settings)
    (takes : a.Takes file input settings t) (hquiet : a.verbosity = 0) (hexplain : a.explain = false)
    (hcode : (a.run (.ofContents file input none)).code = 0) :
    (a.run (.ofContents file input none)).errors = [] ↔ Even (t.count quote) := by
  have hnothing (es : List Event) : a.whenVerbose es = [] := if_pos hquiet
  rw [Outcome.errors, notice_run _ hexplain hcode, List.append_nil]
  constructor
  · intro hnil
    rw [← Nat.not_odd_iff_even]
    intro hodd
    obtain ⟨e, front, -, hlog⟩ := log_run_of_odd loads takes hodd
    rw [hlog, hnothing, hnothing, List.nil_append, List.flatMap_cons, List.flatMap_nil,
      List.append_nil] at hnil
    exact Event.line_ne_nil _ hnil
  · intro heven
    rw [log_run_of_even loads takes heven, hnothing, hnothing]
    rfl

end Arguments

/-- A run that reaches its template, without a filter, warns of a literal left open, at the place
where it opens and under the policy in force, whatever becomes of the template. It logs nothing more
unless more is asked for, and then that it loads settings, if it does, and at last how many literals
and patterns there are. -/
theorem log_of_run {arguments : List Text} {a : Arguments}
    (h : Request.read arguments = .ok (.run a)) {file : Text → Content} {input : Content}
    {settings : Option Settings} {t : Text} (loads : a.Loads file settings)
    (takes : a.Takes file input settings t) :
    let policy := a.policyOver settings
    let s := Statement.ofTemplate policy t
    let o := respond arguments (.ofContents file input none)
    let before := a.whenVerbose (a.config.map Event.loading).toList
    let behind := a.whenVerbose [Event.prepared s]
    (Even (t.count quote) → o.log = before ++ behind) ∧
    (Odd (t.count quote) → ∃ e front, OpenLiteral.Locates e t front ∧
      o.log = before ++ Event.openLiteral front.byteSize policy :: behind ∧
      (Event.openLiteral front.byteSize policy).line =
        "  WARN SQL template ends inside a string literal start=".toList ++
          Text.decimal front.byteSize ++ " policy=".toList ++ Event.policyTitle policy ++ ['\n']) ∧
    (∀ path, (Event.loading path).line =
      " DEBUG loading appender config path=".toList ++ path ++ ['\n']) ∧
    (Event.prepared s).line = " DEBUG parsed SQL template segments=".toList ++
      Text.decimal ((Token.scan t).countP fun u => !u.isText) ++ " placeholders=".toList ++
      Text.decimal ((Token.scan t).countP fun u => u.kind? policy = some .pattern) ++ ['\n'] ∧
    o.errors = o.log.flatMap Event.line ++ o.notice ∧
    (a.verbosity = 0 → a.explain = false → o.code = 0 → (o.errors = [] ↔ Even (t.count quote))) := by
  intro policy s o before behind
  have ho : o = a.run (.ofContents file input none) := by
    simp only [o, respond, h]
  refine ⟨?_, ?_, Event.line_loading, ?_, rfl, ?_⟩
  · intro heven
    rw [ho]
    exact Arguments.log_run_of_even loads takes heven
  · intro hodd
    obtain ⟨e, front, hfront, hlog⟩ := Arguments.log_run_of_odd loads takes hodd
    rw [ho]
    exact ⟨e, front, hfront, hlog, Event.line_openLiteral policy _⟩
  · rw [Event.line_prepared, Statement.length_segments, Statement.placeholderCount_ofTemplate]
  · intro hquiet hexplain hcode
    rw [ho] at hcode ⊢
    exact Arguments.errors_run_eq_nil_iff loads takes hquiet hexplain hcode

theorem log_of_run_of_refused_template :
    let file : Text → Content := fun path => .ok (List.utf8Encode
      (if path = "c.toml".toList then "[appender]\nsql='x'\n[parser]\nunterminated='reject'".toList
        else "é'it''s', '%d".toList))
    let arguments := ["-v".toList, "-c".toList, "c.toml".toList, "t.sql".toList]
    let o := respond arguments (.ofContents file (.ok .empty) none)
    Request.read arguments = .ok (.run
      ⟨some "t.sql".toList, none, some "c.toml".toList, none, .text, false, 1⟩) ∧
    o.log = [Event.loading "c.toml".toList, Event.openLiteral 11 .reject,
      Event.prepared (Statement.ofTemplate .reject "é'it''s', '%d".toList)] := by
  intro file arguments o
  have hread : Request.read arguments = .ok (.run
      ⟨some "t.sql".toList, none, some "c.toml".toList, none, .text, false, 1⟩) := by
    decide +kernel
  have hsettings : Settings.ofText "[appender]\nsql='x'\n[parser]\nunterminated='reject'".toList =
      .ok ⟨"x".toList, .reject⟩ := by
    decide +kernel
  have hconfig : (file "c.toml".toList).Holds
      "[appender]\nsql='x'\n[parser]\nunterminated='reject'".toList :=
    congrArg (fun t : Text => (Except.ok t.utf8Encode : Content)) (if_pos rfl)
  have htemplate : (file "t.sql".toList).Holds "é'it''s', '%d".toList :=
    congrArg (fun t : Text => (Except.ok t.utf8Encode : Content)) (if_neg (by decide))
  obtain ⟨-, hodd, -⟩ := @log_of_run _ _ hread file (.ok .empty) _ _
    (.some rfl hconfig hsettings) (.file rfl rfl htemplate)
  obtain ⟨e, front, hfront, hlog, -⟩ := hodd (by decide)
  have hrefused : prepare .reject "é'it''s', '%d".toList = .error ⟨⟨11, 14⟩, "%d".toList⟩ := by
    decide +kernel
  obtain rfl := Except.error.inj (hrefused.symm.trans hfront.prepare_eq_error)
  have hstart : front.byteSize = 11 := (congrArg Span.start hfront.span_eq).symm
  rw [hstart] at hlog
  exact ⟨hread, hlog⟩

end Command
end SqlTemplate
