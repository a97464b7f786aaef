/-
  Fanout.Proofs.Expr.Computed
  ───────────────────────────
  **Durations that expressions compute.**

  A difference of points in time is small, but multiples of multiples are
  not: only their seconds have to fit into 64 bits.  That is what no
  operation leaves behind, so it holds of every duration that an expression
  gives:

    • `kept_reached` — operators and functions keep durations in reach,
    • `Computed.inReach` — every computed duration is in reach,
    • `computed_arithmetic` — opposites, sizes, multiples and moved points in
      time are exact or refused; sums and differences are so up to the
      length from which on their seconds wrap around unnoticed.
-/
import Fanout.Proofs.Calendar.Instant
import Fanout.Proofs.Expr.Kept

namespace Fanout.Expr

open Fanout.Calendar Fanout.Number

variable {d e : Duration} {t : DateTime}

/-! ## §1. The reach is kept. -/

/-- If the value is a duration, it is in reach. -/
def Reached (v : Value) : Prop := ∀ d, v = .duration d → d.InReach

theorem reached_duration (h : d.InReach) : Reached (.duration d) := fun e he => by
  cases he
  exact h

theorem reached_of_timeless {v : Value} (h : Timeless v) : Reached v := fun d hd => by
  rw [hd] at h
  exact absurd rfl h.2

theorem reached_of_untimed {o : Outcome Value} (ho : Untimed o) {v : Value} (h : o = .ok v) :
    Reached v := reached_of_timeless (ho v h)

theorem reached_of_newDuration {made : Option Duration} (hmade : ∀ d, made = some d → d.InReach)
    {v : Value} (h : newDuration made = .ok v) : Reached v := by
  cases made with
  | none => cases h
  | some d =>
      cases h
      exact reached_duration (hmade d rfl)

theorem reached_of_movedTime {moved : Option DateTime} {v : Value} (h : movedTime moved = .ok v) :
    Reached v := by
  cases moved with
  | none => cases h
  | some t =>
      cases h
      exact fun d hd => by cases hd

theorem reached_unary {op : UnaryOp} {x v : Value} (hx : Reached x)
    (h : unaryOperation op x = .ok v) : Reached v := by
  unfold unaryOperation at h
  split at h
  · cases h
    exact reached_of_timeless (by simp)
  · split at h
    next d =>
      cases h
      exact reached_duration (hx d rfl).neg
    next => exact reached_of_untimed (untimed_narrowed _ _) h
    next => exact reached_of_untimed (by simp) h
    next => cases h
  · split at h
    next n _ =>
      cases h
      cases n with
      | int n => exact reached_of_timeless (timeless_int n)
      | float x => exact reached_of_timeless (timeless_float x)
    next d _ =>
      cases h
      exact hx
    next => cases h

theorem reached_binary {op : BinaryOp} {x y v : Value} (h : binaryOperation op x y = .ok v) :
    Reached v := by
  unfold binaryOperation at h
  split at h
  · exact reached_of_untimed (untimed_numericOperation op _ _) h
  · unfold otherOperation at h
    have hrepeated : ∀ s n, Untimed (repetition s n) := fun s n => untimed_ite (by simp) (by simp)
    split at h
    next => exact reached_of_untimed (by simp) h
    next => exact reached_of_untimed (hrepeated _ _) h
    next => exact reached_of_untimed (hrepeated _ _) h
    next => exact reached_of_movedTime h
    next => exact reached_of_movedTime h
    next => exact reached_of_movedTime h
    next =>
      refine reached_of_newDuration (fun d hd => ?_) h
      unfold DateTime.sub at hd
      exact Duration.inReach_of_bounded? hd
    next =>
      refine reached_of_newDuration (fun d hd => ?_) h
      exact Duration.inReach_of_bounded? hd
    next =>
      refine reached_of_newDuration (fun d hd => ?_) h
      exact Duration.inReach_of_bounded? hd
    next => exact reached_of_newDuration (fun d hd => Duration.inReach_of_mul? hd) h
    next => exact reached_of_newDuration (fun d hd => Duration.inReach_of_mul? hd) h
    next => cases h

/-- What is chosen among values is one of them. -/
theorem reached_extreme {f : Builtin} {wanted : Ordering} (hw : wanted ≠ .eq) {b v : Value}
    {rest : List Value} (hargs : ∀ a ∈ b :: rest, Reached a)
    (h : extreme f wanted b rest = .ok v) : Reached v :=
  hargs v (extreme_spec hw h fun _ ha => absurd ha List.not_mem_nil).1

theorem reached_absolute {x v : Value} (hx : Reached x) (h : absolute x = .ok v) : Reached v := by
  unfold absolute at h
  split at h
  next d =>
    cases h
    exact reached_duration (hx d rfl).abs
  next => exact reached_of_untimed (untimed_narrowed _ _) h
  next => exact reached_of_untimed (by simp) h
  next => cases h

theorem reached_function {f : Builtin} {args : List Value} {v : Value}
    (hargs : ∀ a ∈ args, Reached a) (h : callBuiltin f args = .ok v) : Reached v := by
  cases f with
  | ts =>
      unfold callBuiltin withOne at h
      dsimp only at h
      split at h
      next x =>
        cases x with
        | str s =>
            have hread : (readTimestamp s).map Value.dateTime = .ok v := h
            cases ht : readTimestamp s with
            | error e =>
                rw [ht] at hread
                cases hread
            | ok t =>
                rw [ht] at hread
                cases hread
                exact fun d hd => by cases hd
        | _ => cases h
      next => cases h
  | abs =>
      unfold callBuiltin withOne at h
      dsimp only at h
      split at h
      next x => exact reached_absolute (hargs x (List.mem_singleton_self x)) h
      next => cases h
  | min | max =>
      unfold callBuiltin at h
      dsimp only at h
      split at h
      next => cases h
      next => exact reached_extreme (by decide) hargs h
  | _ => exact reached_of_untimed (untimed_callBuiltin (by decide) args) h

/-- **Operators and functions keep durations in reach.** -/
theorem kept_reached : Kept Reached where
  timeless := reached_of_timeless
  unary := reached_unary
  binary _ _ h := reached_binary h
  function := reached_function

/-! ## §2. Computed durations. -/

/-- The durations that expressions give, where the durations that are bound to their names come from
expressions as well. -/
inductive Computed : Duration → Prop where
  /-- The value of an expression. -/
  | of_evaluate {text : String} {b : Bindings} {d : Duration}
      (bound : ∀ n e, b.get? n = some (.duration e) → Computed e)
      (value : evaluate text b = .ok (.duration d)) : Computed d

/-- **Every computed duration is in reach.** -/
theorem Computed.inReach (h : Computed d) : d.InReach := by
  induction h with
  | of_evaluate bound value ih =>
      have hbound : ∀ n v, Bindings.get? _ n = some v → Reached v := fun n v hv e he => by
        rw [he] at hv
        exact ih n e hv
      exact kept_reached.evaluate hbound value _ rfl

/-! ## §3. Their arithmetic. -/

/-- The outcome is the duration of this length, or it is refused. -/
def ExactDuration (total : Int) (o : Outcome Value) : Prop :=
  (∃ d, o = .ok (.duration d) ∧ d.total = total) ∨ o = .error (.overflow .duration)

/-- The outcome is the point in time with this number, or it is refused because the calendar has no
such point. -/
def ExactTime (instant : Int) (o : Outcome Value) : Prop :=
  (∃ t, o = .ok (.dateTime t) ∧ t.isLeapSecond = false ∧ t.instant = instant) ∨
    o = .error (.overflow .dateTime) ∧
      ∀ t : DateTime, t.isLeapSecond = false → t.instant ≠ instant

theorem exactDuration_newDuration {total : Int} {made : Option Duration} :
    ExactDuration total (newDuration made) ↔ ∀ d, made = some d → d.total = total := by
  cases made with
  | none => exact iff_of_true (.inr rfl) fun d hd => by cases hd
  | some e =>
      constructor
      · intro h d hd
        cases hd
        rcases h with ⟨d, hok, htotal⟩ | herror
        · cases hok
          exact htotal
        · cases herror
      · intro h
        exact .inl ⟨e, rfl, h e rfl⟩

theorem exactTime_movedTime {instant : Int} {moved : Option DateTime}
    (h : ∀ u, moved = some u ↔ u.isLeapSecond = false ∧ u.instant = instant) :
    ExactTime instant (movedTime moved) := by
  cases moved with
  | none => exact .inr ⟨rfl, fun u hu hinstant => by cases (h u).mpr ⟨hu, hinstant⟩⟩
  | some t =>
      obtain ⟨ht, hinstant⟩ := (h t).mp rfl
      exact .inl ⟨t, rfl, ht, hinstant⟩

/-- **The arithmetic of computed durations.**  Opposites and sizes are exact; multiples are exact or
refused, and so are points in time outside leap seconds that are moved by a duration.  A sum or a
difference is exact or refused exactly if the length is less than the one from which on its seconds
come back, and a duration of another length from there on. -/
theorem computed_arithmetic (hd : Computed d) (he : Computed e) (ht : t.isLeapSecond = false)
    (n : Int64) :
    (∃ r, unaryOperation .neg (.duration d) = .ok (.duration r) ∧ r.total = -d.total) ∧
      unaryOperation .pos (.duration d) = .ok (.duration d) ∧
      (∃ r, callBuiltin .abs [.duration d] = .ok (.duration r) ∧ r.total = |d.total|) ∧
      ExactDuration (d.total * n.toInt) (binaryOperation .mul (.duration d) (.int n)) ∧
      ExactDuration (d.total * n.toInt) (binaryOperation .mul (.int n) (.duration d)) ∧
      ExactTime (t.instant + d.total) (binaryOperation .add (.dateTime t) (.duration d)) ∧
      ExactTime (t.instant + d.total) (binaryOperation .add (.duration d) (.dateTime t)) ∧
      ExactTime (t.instant - d.total) (binaryOperation .sub (.dateTime t) (.duration d)) ∧
      (ExactDuration (d.total + e.total) (binaryOperation .add (.duration d) (.duration e)) ↔
        |d.total + e.total| < comesBack) ∧
      (ExactDuration (d.total - e.total) (binaryOperation .sub (.duration d) (.duration e)) ↔
        |d.total - e.total| < comesBack) := by
  have hd := hd.inReach
  have he := he.inReach
  obtain ⟨hlow, hhigh⟩ := hd
  obtain ⟨hlow', hhigh'⟩ := he
  have hmultiple : ExactDuration (d.total * n.toInt) (newDuration (d.mul? n)) :=
    exactDuration_newDuration.mpr fun r hr => (Duration.mul?_eq_some_iff.mp hr).1
  have hlater : ExactTime (t.instant + d.total) (movedTime (t.add? d)) :=
    exactTime_movedTime fun u => DateTime.add?_eq_some_iff ht
  have hearlier : ExactTime (t.instant - d.total) (movedTime (t.sub? d)) :=
    exactTime_movedTime fun u => DateTime.sub?_eq_some_iff ht ⟨hlow, hhigh⟩
  refine ⟨⟨d.neg, rfl, Duration.InReach.total_neg ⟨hlow, hhigh⟩⟩, rfl,
    ⟨d.abs, rfl, Duration.InReach.total_abs ⟨hlow, hhigh⟩⟩, hmultiple, hmultiple, hlater, hlater,
    hearlier, ?_, ?_⟩
  · show ExactDuration _ (newDuration (d.add? e)) ↔ _
    rw [exactDuration_newDuration, Duration.add?_eq, Duration.ofTotal?_exact_iff (by omega) (by omega),
      abs_lt]
  · show ExactDuration _ (newDuration (d.sub? e)) ↔ _
    rw [exactDuration_newDuration, Duration.sub?_eq, Duration.ofTotal?_exact_iff (by omega) (by omega),
      abs_lt]

/-- The bindings of expressions with the function that reads timestamps. -/
def withTs : Bindings := ⟨[("ts", .builtin .ts)]⟩

/-- Almost 2⁶³ seconds. -/
def longest : Duration := ofLength (9223372036854775806 * 1000000000)

/-- It comes of six seconds, multiplied twice. -/
theorem computed_longest : Computed longest := by
  have hbound : ∀ n e, withTs.get? n ≠ some (.duration e) := by
    intro n e h
    unfold Bindings.get? withTs at h
    simp only [Assoc.get?] at h
    split at h <;> cases h
  have hvalue : evaluate
      "(ts('1970-01-01T00:00:06Z') - ts('1970-01-01T00:00:00Z')) * 2147483647 * 715827883" withTs =
        .ok (.duration longest) := by
    decide +kernel
  exact .of_evaluate (fun n e h => absurd h (hbound n e)) hvalue

/-- The start of 1970. -/
def epoch : DateTime := .startOf ⟨1970, 1, 1, by decide⟩

/-- Twice almost 2⁶³ seconds are four seconds backwards when they are a sum, and refused when they
are a multiple. -/
theorem computed_arithmetic_longest :
    Computed longest ∧ epoch.isLeapSecond = false ∧
      ¬ExactDuration (longest.total + longest.total)
        (binaryOperation .add (.duration longest) (.duration longest)) ∧
      binaryOperation .add (.duration longest) (.duration longest) =
        .ok (.duration ⟨-4, 0, by decide⟩) ∧
      binaryOperation .mul (.duration longest) (.int 2) = .error (.overflow .duration) ∧
      ExactTime (epoch.instant + longest.total)
        (binaryOperation .add (.dateTime epoch) (.duration longest)) := by
  obtain ⟨-, -, -, hmultiple, -, hlater, -, -, hsum, -⟩ :=
    computed_arithmetic (t := epoch) computed_longest computed_longest rfl 2
  have hlength : longest.total = 9223372036854775806 * 1000000000 := rfl
  refine ⟨computed_longest, rfl, fun h => ?_, rfl, ?_, hlater⟩
  · have hshort := hsum.mp h
    rw [hlength] at hshort
    exact absurd hshort (by decide)
  · rcases hmultiple with ⟨r, hr, -⟩ | hrefused
    · cases hr
    · exact hrefused

end Fanout.Expr
