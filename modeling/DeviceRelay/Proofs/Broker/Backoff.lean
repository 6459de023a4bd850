import DeviceRelay.Broker.Request
import DeviceRelay.Proofs.Broker.Delay
import DeviceRelay.Value.Text
import Mathlib.Data.List.Forall2

/-!
# Backing off

A broker that refuses is asked again after a delay that doubles up to six times. What comes of it is settled by the
first attempt that is not refused, or by the limit:

    attempt 1 ──d──▶ attempt 2 ──2d──▶ attempt 3 ──4d──▶ … ──▶ attempt k        k = min limit (first not refused)
    refused          refused           refused                 how connecting ends

A delay that is not waited out breaks the row off too early, though the broker could have been asked again.

* `attemptsFrom_of_refused`, `attemptsFrom_last`, `attemptsFrom_of_failed` — all that one attempt can lead to.
* `exists_attemptsFrom_eq_after` — a row of refused attempts.
* `Connection.followsBackoff_establishTimed_iff` — when a row of attempts goes by the law.
-/

namespace DeviceRelay.Broker

variable {α : Type}

/-! ### Attempts -/

namespace Attempt

/-- Whether the broker refuses. -/
def isRefused : Attempt α → Bool
  | .refused _ => true
  | .connected _ | .broken _ _ => false

/-- How connecting ends with an attempt that no other follows. -/
def ending : Attempt α → Except Failure (Option α)
  | .connected link => .ok (some link)
  | .refused reason => .error (.broker reason)
  | .broken kind reason => .error (.unexpected kind reason)

theorem eq_refused {a : Attempt α} (h : a.isRefused = true) : ∃ reason, a = .refused reason := by
  cases a with
  | refused reason => exact ⟨reason, rfl⟩
  | connected | broken => cases h

end Attempt

/-- Of the attempts from the first one up to a limit, the one that no other follows: the first that is not refused, or
the one at the limit. -/
structure IsLast (outcome : Nat → Attempt α) (limit k : Nat) : Prop where
  one_le : 1 ≤ k
  le_limit : k ≤ limit
  refused : ∀ i, 1 ≤ i → i < k → (outcome i).isRefused = true
  final : k = limit ∨ (outcome k).isRefused = false

theorem exists_isLast (outcome : Nat → Attempt α) {limit : Nat} (h : 1 ≤ limit) : ∃ k, IsLast outcome limit k := by
  induction limit, h using Nat.le_induction with
  | base => exact ⟨1, le_refl _, le_refl _, fun i hone hlt => absurd hlt (by omega), .inl rfl⟩
  | succ limit hlimit ih =>
    obtain ⟨k, hk⟩ := ih
    cases hrefused : (outcome k).isRefused with
    | false => exact ⟨k, hk.one_le, Nat.le_succ_of_le hk.le_limit, hk.refused, .inr hrefused⟩
    | true =>
      -- the one at the limit was refused, so that there is one more
      obtain rfl : k = limit := hk.final.resolve_right (by simp [hrefused])
      refine ⟨k + 1, by omega, le_refl _, fun i hone hlt => ?_, .inl rfl⟩
      rcases Nat.lt_succ_iff_lt_or_eq.mp hlt with hlt | rfl
      · exact hk.refused i hone hlt
      · exact hrefused

/-! ### One attempt -/

namespace Connection

variable {outcome : Nat → Attempt α} {sleep : Nat → Delay → Except Failure Unit} {base : Delay} {attempt left : Nat}

/-- A refused attempt is followed by a delay and the others. -/
theorem attemptsFrom_of_refused {delay : Delay} (hrefused : (outcome attempt).isRefused = true) (hleft : left ≠ 0)
    (hwaited : base.waited (sleep attempt) (doublings attempt) = .ok delay) :
    ∃ entry, attemptsFrom outcome sleep base attempt (left + 1) =
      retried delay entry (attemptsFrom outcome sleep base (attempt + 1) left) := by
  obtain ⟨grown, hgrown, hwaited⟩ := bind_eq_ok.mp hwaited
  obtain ⟨⟨⟩, hwait, hdelay⟩ := bind_eq_ok.mp hwaited
  obtain rfl := Except.ok.inj hdelay
  obtain ⟨reason, hreason⟩ := Attempt.eq_refused hrefused
  refine ⟨retryEntry attempt reason, ?_⟩
  rw [attemptsFrom, hreason]
  dsimp only
  rw [if_neg hleft, hgrown]
  dsimp only
  rw [hwait]

/-- A refused attempt whose delay is not waited out is followed by no other, and why it was refused is not what comes
out. -/
theorem attemptsFrom_of_failed (sleep : Nat → Delay → Except Failure Unit) {failure : Failure}
    (hrefused : (outcome attempt).isRefused = true) (hleft : left ≠ 0)
    (hwaited : base.waited (sleep attempt) (doublings attempt) = .error failure) :
    ∃ log, attemptsFrom outcome sleep base attempt (left + 1) = ⟨.error failure, 1, [], log⟩ := by
  obtain ⟨reason, hreason⟩ := Attempt.eq_refused hrefused
  rw [attemptsFrom, hreason]
  dsimp only
  rw [if_neg hleft]
  unfold Delay.waited at hwaited
  cases hgrown : Delay.doubled (doublings attempt) base with
  | error failure' =>
    rw [hgrown] at hwaited
    obtain rfl := Except.error.inj hwaited
    exact ⟨[], rfl⟩
  | ok grown =>
    rw [hgrown] at hwaited
    dsimp only
    cases hwait : grown.waitOut (sleep attempt) with
    | error failure' =>
      obtain rfl : failure' = failure := by simpa [bind, Except.bind, hwait] using hwaited
      exact ⟨_, rfl⟩
    | ok => simp [bind, Except.bind, pure, Except.pure, hwait] at hwaited

/-- The last attempt says how connecting ends. -/
theorem attemptsFrom_last (base : Delay) (left : Nat) (h : left = 0 ∨ (outcome attempt).isRefused = false) :
    ∃ log, attemptsFrom outcome sleep base attempt (left + 1) = ⟨(outcome attempt).ending, 1, [], log⟩ := by
  rw [attemptsFrom]
  cases hattempt : outcome attempt with
  | connected link => exact ⟨[], rfl⟩
  | broken kind reason => exact ⟨[], rfl⟩
  | refused reason =>
    rw [hattempt] at h
    obtain rfl := h.resolve_right nofun
    exact ⟨[surrenderEntry attempt reason], if_pos rfl⟩

/-! ### A row of attempts -/

/-- Rounds of an attempt that is refused, what is logged of it and the delay behind it, in front of other attempts. -/
def after (rounds : List (Delay × LogEntry)) (later : Connection α) : Connection α :=
  rounds.foldr (fun round later => retried round.1 round.2 later) later

section After

variable (rounds : List (Delay × LogEntry)) (later : Connection α)

@[simp]
theorem after_result : (after rounds later).result = later.result := by
  induction rounds with
  | nil => rfl
  | cons round rest ih => exact ih

@[simp]
theorem after_attempts : (after rounds later).attempts = rounds.length + later.attempts := by
  induction rounds with
  | nil => exact (Nat.zero_add _).symm
  | cons round rest ih =>
    show (after rest later).attempts + 1 = _
    rw [ih, List.length_cons]
    omega

@[simp]
theorem after_delays : (after rounds later).delays = rounds.map Prod.fst ++ later.delays := by
  induction rounds with
  | nil => rfl
  | cons round rest ih => exact congrArg (round.1 :: ·) ih

theorem after_append (round : Delay × LogEntry) :
    after (rounds ++ [round]) later = after rounds (retried round.1 round.2 later) :=
  List.foldr_append

end After

/-- The delays of rounds, the base doubled as often as the number of each says, but no more than six times. -/
def AreBackoff (base : Delay) (delays : List Delay) : Prop :=
  List.Forall₂ (fun i delay => base.Doubles (min i 6) delay) (List.range delays.length) delays

/-- So many attempts that are refused, with delays that are waited out, are so many rounds. -/
theorem exists_attemptsFrom_eq_after (sleep : Nat → Delay → Except Failure Unit) (rounds left : Nat)
    (hrefused : ∀ i < rounds, (outcome (i + 1)).isRefused = true)
    (hwaited : ∀ i < rounds, ∃ delay, base.Doubles (min i 6) delay ∧
      base.waited (sleep (i + 1)) (min i 6) = .ok delay) (hleft : left ≠ 0) :
    ∃ row, row.length = rounds ∧ AreBackoff base (row.map Prod.fst) ∧
      attemptsFrom outcome sleep base 1 (left + rounds) =
        after row (attemptsFrom outcome sleep base (rounds + 1) left) := by
  induction rounds generalizing left with
  | zero => exact ⟨[], rfl, .nil, rfl⟩
  | succ rounds ih =>
    obtain ⟨row, hlength, hdelays, hrow⟩ := ih (left + 1) (fun i hi => hrefused i (by omega))
      (fun i hi => hwaited i (by omega)) left.succ_ne_zero
    obtain ⟨delay, hdelay, hwait⟩ := hwaited rounds rounds.lt_succ_self
    obtain ⟨entry, hround⟩ := attemptsFrom_of_refused (hrefused rounds rounds.lt_succ_self) hleft hwait
    refine ⟨row ++ [(delay, entry)], by simp [hlength], ?_, ?_⟩
    · have hlast : List.Forall₂ (fun i delay => base.Doubles (min i 6) delay) [row.length] [delay] :=
        .cons (hlength ▸ hdelay) .nil
      rw [AreBackoff, List.map_append, List.length_append, List.length_map, List.map_singleton, List.length_singleton,
        List.range_succ]
      rw [AreBackoff, List.length_map] at hdelays
      exact List.rel_append hdelays hlast
    · rw [show left + (rounds + 1) = left + 1 + rounds by omega, hrow, hround, after_append]

/-- The law: one attempt is the last, and says how connecting ends. Each other one is followed by a delay, the base
doubled as often as there were attempts before that one, but no more than six times. -/
structure FollowsBackoff (outcome : Nat → Attempt α) (base : Delay) (limit : Nat) (c : Connection α) : Prop where
  isLast : IsLast outcome limit c.attempts
  result : c.result = (outcome c.attempts).ending
  delays : AreBackoff base c.delays
  delays_length : c.delays.length + 1 = c.attempts

/-- It breaks off with a delay that is not waited out, after an attempt that is refused and not the last. -/
structure BreaksOff (rest : Nat → Nat → Except Failure Unit) (base : Delay) (c : Connection α) : Prop where
  result : ∃ failure, base.FailsWith (rest c.attempts) (min c.delays.length 6) failure ∧ c.result = .error failure
  delays : AreBackoff base c.delays
  delays_length : c.delays.length + 1 = c.attempts

variable {rest : Nat → Nat → Except Failure Unit} {limit k : Nat}

/-- A row of attempts with a timer, which may do otherwise behind each attempt. -/
def establishTimed (outcome : Nat → Attempt α) (rest : Nat → Nat → Except Failure Unit) (base : Delay) (limit : Nat) :
    Connection α :=
  establish outcome (fun attempt => Delay.sleep (rest attempt)) base limit

theorem followsBackoff_establishTimed (hbase : base.isNonNegative = true) (hlast : IsLast outcome limit k)
    (hcan : ∀ i, i + 1 < k → base.CanWait (rest (i + 1)) (min i 6)) :
    (establishTimed outcome rest base limit).FollowsBackoff outcome base limit := by
  obtain ⟨hone, hle, hrefused, hfinal⟩ := hlast
  obtain ⟨rounds, rfl⟩ := Nat.exists_eq_add_of_le' hone
  obtain ⟨left, rfl⟩ := Nat.exists_eq_add_of_le' hle
  obtain ⟨row, rfl, hdelays, hrow⟩ := exists_attemptsFrom_eq_after
    (fun attempt => Delay.sleep (rest attempt)) rounds (left + 1)
    (fun i hi => hrefused (i + 1) (by omega) (by omega))
    (fun i hi => Delay.exists_waited_eq hbase (hcan i (by omega))) left.succ_ne_zero
  obtain ⟨log, hend⟩ := attemptsFrom_last base left (hfinal.imp_left (by omega))
  have hc : establishTimed outcome rest base (left + (row.length + 1)) =
      after row ⟨(outcome (row.length + 1)).ending, 1, [], log⟩ := by
    rw [← hend, ← hrow, establishTimed, establish]
    congr 1
    omega
  rw [hc]
  exact {
    isLast := by simpa using ⟨hone, hle, hrefused, hfinal⟩
    result := by simp
    delays := by simpa using hdelays
    delays_length := by simp }

theorem breaksOff_establishTimed (hbase : base.isNonNegative = true) (hlast : IsLast outcome limit k) {rounds : Nat}
    (hrounds : rounds + 1 < k) (hcan : ∀ i < rounds, base.CanWait (rest (i + 1)) (min i 6))
    (hcannot : ¬base.CanWait (rest (rounds + 1)) (min rounds 6)) :
    (establishTimed outcome rest base limit).BreaksOff rest base ∧
      (establishTimed outcome rest base limit).attempts < k := by
  obtain ⟨hone, hle, hrefused, hfinal⟩ := hlast
  obtain ⟨left, rfl⟩ : ∃ left, limit = left + 1 + 1 + rounds := ⟨limit - (rounds + 2), by omega⟩
  obtain ⟨row, rfl, hdelays, hrow⟩ := exists_attemptsFrom_eq_after
    (fun attempt => Delay.sleep (rest attempt)) rounds (left + 1 + 1)
    (fun i hi => hrefused (i + 1) (by omega) (by omega)) (fun i hi => Delay.exists_waited_eq hbase (hcan i hi))
    (left + 1).succ_ne_zero
  obtain ⟨failure, hfailure, hwaited⟩ := Delay.exists_failsWith hbase hcannot
  obtain ⟨log, hend⟩ := attemptsFrom_of_failed (fun attempt => Delay.sleep (rest attempt))
    (hrefused (row.length + 1) (by omega) hrounds) left.succ_ne_zero hwaited
  rw [establishTimed, establish, hrow, hend]
  exact ⟨⟨⟨failure, by simpa using hfailure, by simp⟩, by simpa using hdelays, by simp⟩, by simpa using hrounds⟩

/-- A row of attempts goes by the law exactly if each delay before the last attempt is waited out, and breaks off at
the first one that is not. -/
theorem followsBackoff_establishTimed_iff (hbase : base.isNonNegative = true) (hlast : IsLast outcome limit k) :
    ((establishTimed outcome rest base limit).FollowsBackoff outcome base limit ↔
        ∀ i, i + 1 < k → base.CanWait (rest (i + 1)) (min i 6)) ∧
      (¬(∀ i, i + 1 < k → base.CanWait (rest (i + 1)) (min i 6)) →
        (establishTimed outcome rest base limit).BreaksOff rest base) := by
  classical
  by_cases hcan : ∀ i, i + 1 < k → base.CanWait (rest (i + 1)) (min i 6)
  · exact ⟨iff_of_true (followsBackoff_establishTimed hbase hlast hcan) hcan, fun hcannot => absurd hcan hcannot⟩
  · have hexists : ∃ i, i + 1 < k ∧ ¬base.CanWait (rest (i + 1)) (min i 6) := by
      push Not at hcan
      exact hcan
    obtain ⟨hrounds, hcannot⟩ := Nat.find_spec hexists
    obtain ⟨hbreaks, hless⟩ := breaksOff_establishTimed hbase hlast hrounds
      (fun i hi => by
        by_contra hi'
        exact Nat.find_min hexists hi ⟨by omega, hi'⟩) hcannot
    refine ⟨iff_of_false (fun hfollows => ?_) hcan, fun _ => hbreaks⟩
    -- an attempt before the last one is refused, and not at the limit
    have hrefused := hlast.refused _ hfollows.isLast.one_le hless
    have hle := hlast.le_limit
    rcases hfollows.isLast.final with hlimit | hnot
    · omega
    · rw [hrefused] at hnot
      cases hnot

end Connection

example : (Connection.establishTimed (fun _ => .refused "down") (fun _ _ => .ok ()) (.int 3) 9 :
    Connection Unit).delays.map Value.shown = ["3", "6", "12", "24", "48", "96", "192", "192"] := by
  decide +kernel

/-! ### Requests -/

namespace Request

/-- A request for a connection, with a timer for the delays. -/
def establishTimed (r : Request) (outcome : Nat → Attempt α) (rest : Nat → Nat → Except Failure Unit) : Connection α :=
  r.establish outcome fun attempt => Delay.sleep (rest attempt)

/-- A request that comes to attempts is answered by a row of attempts. -/
theorem establishTimed_eq {r : Request} {limit : Nat} (hnames : r.repeated? = none) (hlimit : r.limit = .ok limit)
    (outcome : Nat → Attempt α) (rest : Nat → Nat → Except Failure Unit) :
    r.establishTimed outcome rest = Connection.establishTimed outcome rest r.delay limit := by
  rw [establishTimed, establish, hnames, hlimit]
  rfl

/-- A request for a connection, by either entrance, with at least one attempt and a first delay that is a number of
seconds not below zero, whatever the attempts come to and whatever the timer does: one attempt `k` is the last. If the
timer counts each delay before it and waits for it, the attempts go by the law: there are `k` of them, between them the
delays double up to six times, and the last one says how connecting ends. Otherwise they break off at the first delay
that is not announced, not counted or not waited for, and then only. -/
theorem followsBackoff_iff (r : Request) (outcome : Nat → Attempt α) (rest : Nat → Nat → Except Failure Unit)
    {limit : Nat} (hnames : r.repeated? = none) (hlimit : r.limit = .ok limit) (hsome : 1 ≤ limit)
    (hdelay : r.delay.isNonNegative = true) :
    ∃ k, IsLast outcome limit k ∧
      ((r.establishTimed outcome rest).FollowsBackoff outcome r.delay limit ↔
        ∀ i, i + 1 < k → r.delay.CanWait (rest (i + 1)) (min i 6)) ∧
      (¬(∀ i, i + 1 < k → r.delay.CanWait (rest (i + 1)) (min i 6)) →
        (r.establishTimed outcome rest).BreaksOff rest r.delay) := by
  obtain ⟨k, hk⟩ := exists_isLast outcome hsome
  rw [establishTimed_eq hnames hlimit]
  exact ⟨k, hk, Connection.followsBackoff_establishTimed_iff hdelay hk⟩

/-- Half a second at first, and three attempts. -/
def halfSecond : Request :=
  ⟨.publisher, "localhost:9092", .empty, .ofList [(delayName, .float (.nearest false 1 2)), (limitName, .int 3)]⟩

/-- A broker that is there from the third attempt on. -/
def third : Nat → Attempt Unit := fun i => if i < 3 then .refused "down" else .connected ()

/-- A timer that waits for every number of nanoseconds. -/
def patient : Nat → Nat → Except Failure Unit := fun _ _ => .ok ()

theorem followsBackoff_iff_halfSecond :
    halfSecond.repeated? = none ∧ halfSecond.limit = .ok 3 ∧ 1 ≤ 3 ∧ halfSecond.delay.isNonNegative = true ∧
      (halfSecond.establishTimed third patient).FollowsBackoff third halfSecond.delay 3 := by
  have hdelay : halfSecond.delay.isNonNegative = true := by decide +kernel
  obtain ⟨k, hlast, hfollows, -⟩ := followsBackoff_iff halfSecond third patient rfl rfl (by decide) hdelay
  refine ⟨rfl, rfl, by decide, hdelay, hfollows.mpr fun i hi => Delay.canWait_of_isSome hdelay ?_⟩
  have hle := hlast.le_limit
  obtain rfl | rfl : i = 0 ∨ i = 1 := by omega
  all_goals decide +kernel

/-- Ten thousand million seconds, which are more nanoseconds than a timer counts. -/
def longRequest : Request := ⟨.connector, "localhost:9092", .ofList [(delayName, .int 10000000000)], .empty⟩

theorem not_forall_followsBackoff :
    ¬∀ (r : Request) (outcome : Nat → Attempt Unit) (rest : Nat → Nat → Except Failure Unit) (limit : Nat),
      r.repeated? = none → r.limit = .ok limit → 1 ≤ limit → r.delay.isNonNegative = true →
      (∀ attempt count, rest attempt count = .ok ()) →
      (r.establishTimed outcome rest).FollowsBackoff outcome r.delay limit := by
  intro h
  have hdelay : longRequest.delay.isNonNegative = true := by decide +kernel
  have hlast : IsLast third 5 3 := ⟨by decide, by decide, by decide, .inr rfl⟩
  have hfollows := h longRequest third patient 5 rfl rfl (by decide) hdelay fun _ _ => rfl
  rw [establishTimed_eq rfl rfl] at hfollows
  -- the first delay is due behind the first attempt, which is not the last
  obtain ⟨grown, count, hdoubles, hlasts, -⟩ :=
    (Connection.followsBackoff_establishTimed_iff hdelay hlast).1.mp hfollows 0 (by decide)
  rw [show longRequest.delay = .int 10000000000 from rfl] at hdoubles
  cases hdoubles
  cases hlasts with
  | whole hcount hfits =>
    norm_num at hcount
    omega

end Request

end DeviceRelay.Broker
