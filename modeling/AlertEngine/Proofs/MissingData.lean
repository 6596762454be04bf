import AlertEngine.Pattern.Reader
import AlertEngine.Proofs.Processing
import AlertEngine.Proofs.ShortCircuit

/-! # Missing data

A comparison has nothing to compare as long as a value that it needs is missing, and then it does
not hold, whatever it asks: not even that something is different or does not match. An expression
over such comparisons does not hold either, unless a part of it asks for nothing at all.
-/

namespace AlertEngine

theorem bind_eq_ok {ε α β : Type} {first : Except ε α} {rest : α → Except ε β} {b : β}
    (ok : first >>= rest = .ok b) : ∃ a, first = .ok a ∧ rest a = .ok b := by
  cases first with
  | error e => cases ok
  | ok a => exact ⟨a, rfl, ok⟩

namespace Comparison

/-- A value that a comparison needs is missing. A rate needs a whole second between its values. -/
def Unresolved (c : Comparison) (current : Sample) (previous : Option Sample) : Prop :=
  match c.source with
  | .metric name => current.metric? name = none
  | .rate of => ∀ before, previous = some before →
      current.metric? of = none ∨ before.metric? of = none ∨
        Timestamp.secondsBetween before.timestamp current.timestamp = 0
  | .percentage part whole => current.metric? part = none ∨ current.metric? whole = none
  | .previous of => ∀ before, previous = some before → before.metric? of = none

variable {c : Comparison} {current : Sample} {previous : Option Sample}

theorem number_eq_none {sample : Sample} {name : String} {found : Option Float}
    (missing : sample.metric? name = none) (ok : c.number sample name = .ok found) :
    found = none := by
  rw [number, missing] at ok
  exact (Except.ok.inj ok).symm

theorem rate_eq_none {before : Sample} {of : String} {found : Option Float}
    (missing : current.metric? of = none ∨ before.metric? of = none ∨
      Timestamp.secondsBetween before.timestamp current.timestamp = 0)
    (ok : c.rate current (some before) of = .ok found) : found = none := by
  obtain ⟨now, read, ok⟩ := bind_eq_ok ok
  obtain ⟨past, read', ok⟩ := bind_eq_ok ok
  rcases missing with missing | missing | still
  · obtain rfl := number_eq_none missing read
    exact (Except.ok.inj ok).symm
  · obtain rfl := number_eq_none missing read'
    cases now <;> exact (Except.ok.inj ok).symm
  · cases now with
    | none => exact (Except.ok.inj ok).symm
    | some now =>
        cases past with
        | none => exact (Except.ok.inj ok).symm
        | some past =>
            simp only [still, if_true] at ok
            exact (Except.ok.inj ok).symm

theorem percentage_eq_none {part whole : String} {found : Option Float}
    (missing : current.metric? part = none ∨ current.metric? whole = none)
    (ok : c.percentage current part whole = .ok found) : found = none := by
  obtain ⟨first, read, ok⟩ := bind_eq_ok ok
  obtain ⟨second, read', ok⟩ := bind_eq_ok ok
  rcases missing with missing | missing
  · obtain rfl := number_eq_none missing read
    exact (Except.ok.inj ok).symm
  · obtain rfl := number_eq_none missing read'
    cases first <;> exact (Except.ok.inj ok).symm

theorem Unresolved.measured {found : Option Float} (unresolved : c.Unresolved current previous)
    (ok : c.measured current previous = .ok found) : found = none := by
  unfold Unresolved at unresolved
  unfold Comparison.measured at ok
  cases source : c.source with
  | metric name =>
      rw [source] at unresolved ok
      exact number_eq_none unresolved ok
  | rate of =>
      rw [source] at unresolved ok
      cases previous with
      | none => exact (Except.ok.inj ok).symm
      | some before => exact rate_eq_none (unresolved before rfl) ok
  | percentage part whole =>
      rw [source] at unresolved ok
      exact percentage_eq_none unresolved ok
  | previous of =>
      rw [source] at unresolved ok
      cases previous with
      | none => exact (Except.ok.inj ok).symm
      | some before => exact number_eq_none (unresolved before rfl) ok

theorem Unresolved.worded {found : Option String} (unresolved : c.Unresolved current previous)
    (ok : c.worded current = .ok found) : found = none := by
  unfold Unresolved at unresolved
  unfold Comparison.worded at ok
  cases source : c.source with
  | metric name =>
      rw [source] at unresolved ok
      simp only [unresolved] at ok
      exact (Except.ok.inj ok).symm
  | rate of | percentage part whole | previous of =>
      rw [source] at ok
      cases ok

/-- No comparator is content with nothing, a negated one neither. -/
theorem compareNumbers_none (right : Float) : c.compareNumbers none right ≠ .ok true := by
  intro holds
  unfold compareNumbers at holds
  split at holds <;> cases holds

variable [PatternLanguage]

theorem compareTexts_none (right : String) : c.compareTexts none right ≠ .ok true := by
  intro holds
  unfold compareTexts at holds
  split at holds
  · cases holds
  · cases holds
  · split at holds <;> cases holds
  · split at holds <;> cases holds
  · cases holds

theorem Unresolved.evaluate_ne_true (unresolved : c.Unresolved current previous) :
    c.evaluate current previous ≠ .ok true := by
  intro holds
  unfold Comparison.evaluate at holds
  split at holds
  · next right _ =>
    split at holds
    · next found ok =>
      obtain rfl := unresolved.measured ok
      exact compareNumbers_none right holds
    · cases holds
  · next right _ =>
    split at holds
    · next found ok =>
      obtain rfl := unresolved.worded ok
      exact compareTexts_none right holds
    · cases holds

end Comparison

namespace Expression

/-- An expression that stands somewhere in another one, or is all of it. -/
inductive Within : Expression → Expression → Prop where
  | self (e : Expression) : Within e e
  | part {inner part : Expression} {j : Junction} {parts : List Expression} :
      part ∈ parts → Within inner part → Within inner (.junction j parts)

/-- No `AND` in an expression is without parts. Such a one would hold on every sample. -/
def Demanding (e : Expression) : Prop :=
  ¬Within (.junction .all []) e

/-- Every comparison of an expression lacks a value that it needs. -/
def Unresolved (e : Expression) (current : Sample) (previous : Option Sample) : Prop :=
  ∀ c ∈ e.comparisons, c.Unresolved current previous

variable {current : Sample} {previous : Option Sample}

theorem demanding_comparison (c : Comparison) : (comparison c).Demanding := by
  intro bare
  cases bare

theorem demanding_junction_iff {j : Junction} {parts : List Expression} :
    (junction j parts).Demanding ↔
      (j = .all → parts ≠ []) ∧ ∀ part ∈ parts, part.Demanding := by
  constructor
  · intro demanding
    constructor
    · rintro rfl rfl
      exact demanding (.self _)
    · intro part member bare
      exact demanding (.part member bare)
  · rintro ⟨filled, demanding⟩ bare
    cases bare with
    | self => exact filled rfl rfl
    | part member bare => exact demanding _ member bare

theorem unresolved_comparison_iff {c : Comparison} :
    (comparison c).Unresolved current previous ↔ c.Unresolved current previous := by
  rw [Unresolved, comparisons, List.forall_mem_singleton]

theorem unresolved_junction_iff {j : Junction} {parts : List Expression} :
    (junction j parts).Unresolved current previous ↔
      ∀ part ∈ parts, part.Unresolved current previous := by
  constructor
  · intro unresolved part member c within
    exact unresolved c (mem_comparisons_junction.2 ⟨part, member, within⟩)
  · intro unresolved c within
    obtain ⟨part, member, within⟩ := mem_comparisons_junction.1 within
    exact unresolved part member c within

theorem Unresolved.evaluate_ne_true [PatternLanguage] {e : Expression}
    (unresolved : e.Unresolved current previous) (demanding : e.Demanding) : e.evaluate current previous ≠ .ok true := by
  induction e using rec_parts with
  | comparison c =>
      rw [evaluate]
      exact (unresolved_comparison_iff.1 unresolved).evaluate_ne_true
  | junction j parts ih =>
      obtain ⟨filled, demanding⟩ := demanding_junction_iff.1 demanding
      have untrue : ∀ part ∈ parts, part.evaluate current previous ≠ .ok true := by
        intro part member
        exact ih part member (unresolved_junction_iff.1 unresolved part member)
          (demanding part member)
      intro holds
      cases j with
      | any =>
          obtain ⟨part, reached, decided⟩ := evaluate_junction_eq_decided_iff.1 holds
          exact untrue part reached.mem decided
      | all =>
          have all := evaluate_junction_eq_neutral_iff.1 holds
          obtain ⟨part, rest, rfl⟩ := List.exists_cons_of_ne_nil (filled rfl)
          exact untrue part (.head rest) (all part (.head rest))

end Expression

/-- The law of missing data. Where every comparison lacks a value that it needs, an expression with
    parts in each `AND` does not hold, and rules with such expressions propose that all is well, or
    fail. -/
theorem unmatched_without_data [PatternLanguage] (current : Sample) (previous : Option Sample) :
    (∀ c : Comparison, c.Unresolved current previous → c.evaluate current previous ≠ .ok true) ∧
    (∀ e : Expression, e.Demanding → e.Unresolved current previous →
      e.evaluate current previous ≠ .ok true) ∧
    ∀ m : Monitor, m.previous = previous →
      (∀ rule ∈ m.task.parameters.rules,
        rule.expression.Demanding ∧ rule.expression.Unresolved current previous) →
      m.candidate current = .ok (.ok, none) ∨ ∃ e, m.candidate current = .error e := by
  refine ⟨fun c unresolved => unresolved.evaluate_ne_true,
    fun e demanding unresolved => unresolved.evaluate_ne_true demanding, ?_⟩
  rintro m rfl rules
  cases proposed : m.candidate current with
  | error e => exact .inr ⟨e, rfl⟩
  | ok proposal =>
      left
      obtain ⟨state, template⟩ := proposal
      obtain ⟨rule, reached, holds, -⟩ | ⟨-, rfl, rfl⟩ := Monitor.firstTrue_eq_ok_iff.1 proposed
      · obtain ⟨demanding, unresolved⟩ := rules rule reached.mem
        exact absurd holds (unresolved.evaluate_ne_true demanding)
      · rfl

/-- A rate within less than a second is not different from zero, and a missing text is not one that
    does not match. -/
theorem unmatched_without_data_negated :
    let changed : Comparison := ⟨.rate "load", .notEqual, .number 0⟩
    let unlike : Comparison := ⟨.metric "state", .notMatching, .text "^ok"⟩
    let parts : List Expression := [.comparison changed, .junction .any [.comparison unlike]]
    let e : Expression := .junction .all parts
    let task : Task :=
      { (default : Task) with parameters := { rules := [⟨.critical, e, some "changed"⟩] } }
    let late : Timestamp :=
      { (default : Timestamp) with nanosecond := 999999999, nanosecond_lt := by decide }
    let before := (Sample.new default "west").withMetric "load" (.integer 1)
    let now := (Sample.new late "west").withMetric "load" (.integer 2)
    let zones : Quorum String AlertState := ⟨1, Nat.one_pos, .latch .empty, .empty, .empty⟩
    let m : Monitor := ⟨task, zones, some before⟩
    e.evaluate now (some before) ≠ .ok true ∧
      (m.candidate now = .ok (.ok, none) ∨ ∃ error, m.candidate now = .error error) := by
  intro changed unlike parts e task late before now zones m
  obtain ⟨-, expressions, monitors⟩ := unmatched_without_data now (some before)
  have demanding : e.Demanding := by
    simp [e, parts, Expression.demanding_junction_iff, Expression.demanding_comparison]
  have still : changed.Unresolved now (some before) := by
    intro earlier same
    obtain rfl : before = earlier := Option.some_inj.1 same
    exact .inr (.inr (by decide))
  have missing : unlike.Unresolved now (some before) := by
    change now.metric? "state" = none
    decide
  have unresolved : e.Unresolved now (some before) := by
    simp [e, parts, Expression.unresolved_junction_iff, Expression.unresolved_comparison_iff,
      still, missing]
  refine ⟨expressions e demanding unresolved, monitors m rfl ?_⟩
  exact List.forall_mem_singleton.2 ⟨demanding, unresolved⟩

/-- An `AND` without parts asks for nothing and holds on every sample. -/
example [PatternLanguage] (current : Sample) (previous : Option Sample) :
    (Expression.all []).evaluate current previous = .ok true := rfl

end AlertEngine
