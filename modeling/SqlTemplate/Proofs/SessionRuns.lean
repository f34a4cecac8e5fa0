import SqlTemplate.Proofs.PolicyAgreement
import SqlTemplate.Session

/-! # What every run of a session keeps

The statement of a session is at all times that of its source, under the policy in force when it was
stored. A step changes the settings or the statement, and one that fails changes neither.
-/
namespace SqlTemplate.Session

/-- What a step may change. -/
inductive Effect where
  | settings
  | statement
  | nothing
deriving DecidableEq, Repr

def Step.effect : Step → Effect
  | .load _ | .renew _ | .choose _ => .settings
  | .prepareOwn | .prepare _ | .prepareDefault _ | .prepareAgain | .preparePattern _ => .statement
  | .compare _ | .parts | .bind _ _ | .write _ | .explain _ => .nothing

/-- The policy in force for a step. -/
def policyFor (s : Session) : Step → Policy
  | .prepareDefault _ => .verbatim
  | _ => s.settings.policy

/-- The policy under which the statement after a step was stored, if `p` is the one before it. -/
def storedAfter (s : Session) (p : Policy) (a : Step) : Policy :=
  match (s.step a).2 with
  | .statement _ => s.policyFor a
  | _ => p

/-- The policy under which the statement at the end of a run was stored. -/
def storedUnder (s : Session) (p : Policy) : List Step → Policy
  | [] => p
  | a :: steps => (s.step a).1.storedUnder (s.storedAfter p a) steps

/-- What a step can do to a session and answer. -/
inductive Outcome (s : Session) (a : Step) : Session × Answer → Prop where
  | settings (settings : Settings) (effect : a.effect = .settings) :
      Outcome s a (s.withSettings settings)
  | stored (u : Statement) (t : Text) (effect : a.effect = .statement)
      (prepared : SqlTemplate.prepare (s.policyFor a) t = .ok u) :
      Outcome s a (⟨s.settings, u, t⟩, .statement u)
  | failed (answer : Answer) (failure : answer.isFailure = true) : Outcome s a (s, answer)
  | answered (answer : Answer) (effect : a.effect = .nothing)
      (query : ∀ u, answer ≠ .statement u) : Outcome s a (s, answer)

theorem keep_outcome (s : Session) {a : Step} (effect : a.effect = .statement) (t : Text) :
    Outcome s a (s.keep (s.policyFor a) t) := by
  rw [keep]
  cases h : SqlTemplate.prepare (s.policyFor a) t with
  | ok u => exact .stored u t effect h
  | error e => exact .failed _ rfl

theorem step_outcome (s : Session) (a : Step) : Outcome s a (s.step a) := by
  cases a with
  | load document =>
    cases h : Settings.ofText document with
    | ok settings =>
      rw [step, h]
      exact .settings settings rfl
    | error e =>
      rw [step, h]
      exact .failed _ rfl
  | renew template => exact .settings _ rfl
  | choose policy => exact .settings _ rfl
  | prepareOwn => exact s.keep_outcome rfl s.settings.template
  | prepare template => exact s.keep_outcome rfl template
  | prepareDefault template => exact s.keep_outcome rfl template
  | prepareAgain => exact s.keep_outcome rfl s.statement.sql
  | preparePattern index =>
    cases h : s.statement.patterns[index]? with
    | some pattern =>
      rw [step, h]
      exact s.keep_outcome rfl pattern
    | none =>
      rw [step, h]
      exact .failed _ rfl
  | compare template => exact .answered _ rfl (by simp)
  | parts => exact .answered _ rfl (by simp)
  | bind layout event => exact .answered _ rfl (by simp)
  | write format => exact .answered _ rfl (by simp)
  | explain filename => exact .answered _ rfl (by simp)

section
variable {s : Session} {a : Step}

theorem step_eq_self_of_failure (h : (s.step a).2.isFailure = true) : (s.step a).1 = s := by
  have hstep := s.step_outcome a
  generalize s.step a = r at h hstep
  cases hstep with
  | settings => cases h
  | stored => cases h
  | failed => rfl
  | answered => rfl

theorem statement_step (h : a.effect ≠ .statement) :
    (s.step a).1.statement = s.statement ∧ (s.step a).1.source = s.source := by
  have hstep := s.step_outcome a
  generalize s.step a = r at hstep
  cases hstep with
  | settings => exact ⟨rfl, rfl⟩
  | stored _ _ effect => exact absurd effect h
  | failed => exact ⟨rfl, rfl⟩
  | answered => exact ⟨rfl, rfl⟩

theorem settings_step (h : a.effect ≠ .settings) : (s.step a).1.settings = s.settings := by
  have hstep := s.step_outcome a
  generalize s.step a = r at hstep
  cases hstep with
  | settings _ effect => exact absurd effect h
  | stored => rfl
  | failed => rfl
  | answered => rfl

theorem step_eq_self (h : a.effect = .nothing) : (s.step a).1 = s := by
  have hsettings := settings_step (s := s) (a := a) (by rw [h]; decide)
  obtain ⟨hstatement, hsource⟩ := statement_step (s := s) (a := a) (by rw [h]; decide)
  calc (s.step a).1
      = ⟨(s.step a).1.settings, (s.step a).1.statement, (s.step a).1.source⟩ := rfl
    _ = s := by rw [hsettings, hstatement, hsource]

end

/-- The statement is that of the source under `p`, which has not refused it. -/
structure Stores (s : Session) (p : Policy) : Prop where
  statement : s.statement = Statement.ofTemplate p s.source
  closed : p = .reject → Even (s.source.count quote)

theorem stores_empty : empty.Stores .verbatim := ⟨rfl, fun h => by cases h⟩

theorem Stores.step {s : Session} {p : Policy} (h : s.Stores p) (a : Step) :
    (s.step a).1.Stores (s.storedAfter p a) := by
  have hstep := s.step_outcome a
  rw [storedAfter]
  generalize s.step a = r at hstep
  cases hstep with
  | settings => exact ⟨h.statement, h.closed⟩
  | stored u t _ prepared =>
    obtain ⟨hu, hclosed⟩ := (Statement.prepare_eq_ok_iff _ t u).mp prepared
    refine ⟨hu, fun hp => ?_⟩
    have hnone := hclosed hp
    rw [hu] at hnone
    exact (Statement.openSegment_ofTemplate_eq_none_iff _ t).mp hnone
  | failed answer failure =>
    cases answer with
    | statement => cases failure
    | _ => exact h
  | answered answer _ query =>
    cases answer with
    | statement u => exact absurd rfl (query u)
    | _ => exact h

theorem Stores.run {s : Session} {p : Policy} (h : s.Stores p) (steps : List Step) :
    (s.run steps).1.Stores (s.storedUnder p steps) := by
  induction steps generalizing s p with
  | nil => exact h
  | cons a steps ih => exact ih (h.step a)

theorem Stores.compare {s : Session} {p : Policy} (h : s.Stores p) (t : Text) :
    ∃ holds, (s.step (.compare t)).2 = .same holds ∧ (holds = true ↔ t = s.source ∧
      (p ≠ .pattern ∨ ∀ g, (Statement.ofTemplate .verbatim s.source).openSegment = some g →
        marker ∉ g.content)) := by
  have hsame := Statement.ofTemplate_eq_verbatim_iff p s.source t
  rw [← h.statement] at hsame
  refine ⟨_, rfl, ?_⟩
  rw [decide_eq_true_iff, ← hsame]
  rfl

/-- After any run from the empty session the statement is that of the source under the policy that
stored it. A step changes only what it is for, and nothing if it fails. Two templates compare as the
same only if they are, up to what the policy made of an open literal. -/
theorem run_keeps_statement_of_source (steps : List Step) :
    let s := (empty.run steps).1
    let p := empty.storedUnder .verbatim steps
    s.statement = Statement.ofTemplate p s.source ∧
    (p = .reject → Even (s.source.count quote)) ∧
    (∀ a, (s.step a).2.isFailure = true → (s.step a).1 = s) ∧
    (∀ a, a.effect = .settings →
      (s.step a).1.statement = s.statement ∧ (s.step a).1.source = s.source) ∧
    (∀ a, a.effect = .statement → (s.step a).1.settings = s.settings) ∧
    (∀ a, a.effect = .nothing → (s.step a).1 = s) ∧
    ∀ t, ∃ holds, (s.step (.compare t)).2 = .same holds ∧ (holds = true ↔ t = s.source ∧
      (p ≠ .pattern ∨ ∀ g, (Statement.ofTemplate .verbatim s.source).openSegment = some g →
        marker ∉ g.content)) := by
  intro s p
  have hstores : s.Stores p := stores_empty.run steps
  refine ⟨hstores.statement, hstores.closed, fun a h => step_eq_self_of_failure h, ?_, ?_,
    fun a h => step_eq_self h, hstores.compare⟩
  · intro a ha
    exact statement_step (by rw [ha]; decide)
  · intro a ha
    exact settings_step (by rw [ha]; decide)

end SqlTemplate.Session
