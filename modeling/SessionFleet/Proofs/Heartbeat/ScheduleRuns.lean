import SessionFleet.Heartbeat.Pacer
/- A schedule whose calls return at once.  It calls on the whole milliseconds that follow its due
   instants, one interval apart, and a stretch of time brings just the calls that fall due in it. -/
namespace SessionFleet
namespace Instant

theorem le_ceilMillis (t : Instant) : t ≤ ceilMillis t := by
  have bound (x : Int) : x ≤ -(-x / 1000000) * 1000000 := by omega
  exact bound t

theorem ceilMillis_lt (t : Instant) : ceilMillis t < t + Span.millisecond := by
  have bound (x : Int) : -(-x / 1000000) * 1000000 < x + 1000000 := by omega
  exact bound t

theorem ceilMillis_mono {s t : Instant} (le : s ≤ t) : ceilMillis s ≤ ceilMillis t := by
  have bound (x y : Int) (le : x ≤ y) : -(-x / 1000000) * 1000000 ≤ -(-y / 1000000) * 1000000 := by
    omega
  exact bound s t le

end Instant

namespace Schedule

variable {interval : Span} {due now until_ : Instant} {fuel : Nat}

/-- A schedule that nothing delays: when it calls next is all that changes. -/
def steady (interval : Span) (due : Instant) : Schedule := ⟨interval, .takes 0, due, none, false⟩

/-- The instant of a call, by how many calls come before it. -/
def callTime (due : Instant) (interval : Span) (k : Nat) : Instant :=
  Instant.ceilMillis (due + k * interval)

/-- What a call that returns at once shows. -/
def beatsAt (t : Instant) : List Beat := [.begun t, .ended t]

theorem starting_steady (spaced : 0 < interval) (first : Span) (now : Instant) :
    starting interval first (.takes 0) now = steady interval (now + first) := by
  simp [starting, steady, Nat.ne_of_gt spaced]

theorem callTime_zero (due : Instant) (interval : Span) :
    callTime due interval 0 = Instant.ceilMillis due := by
  simp [callTime]

theorem callTime_add (due : Instant) (interval : Span) (j k : Nat) :
    callTime (due + j * interval) interval k = callTime due interval (j + k) := by
  simp only [callTime, Int.natCast_add, Int.add_mul, Int.add_assoc]

theorem callTime_mono {j k : Nat} (le : j ≤ k) (due : Instant) (interval : Span) :
    callTime due interval j ≤ callTime due interval k := by
  apply Instant.ceilMillis_mono
  have later : (j : Int) * interval ≤ k * interval :=
    Int.mul_le_mul_of_nonneg_right (Int.ofNat_le.mpr le) (Int.natCast_nonneg interval)
  exact Int.add_le_add_left later due

/-- No call comes so late that it moves the ones after it. -/
theorem wake_steady (interval : Span) (due : Instant) :
    (steady interval due).wake (Instant.ceilMillis due) =
      (beatsAt (Instant.ceilMillis due), steady interval (due + interval)) := by
  have prompt : ¬ due + tolerance < Instant.ceilMillis due := by
    have early := Instant.ceilMillis_lt due
    have bound (x y : Int) (lt : x < y + 1000000) : ¬ y + 5000000 < x := by omega
    exact bound _ due early
  have next : (steady interval due).dueAfter (Instant.ceilMillis due) = due + interval :=
    if_neg prompt
  simp only [wake, begin, steady] at next ⊢
  simp [next, beatsAt]

theorem run_steady (reached : now ≤ Instant.ceilMillis due)
    (enough : until_ < callTime due interval fuel) :
    ∃ count,
      (steady interval due).run now until_ fuel =
        ((List.range count).flatMap fun k => beatsAt (callTime due interval k),
          steady interval (due + count * interval)) ∧
      ∀ k, k < count ↔ callTime due interval k ≤ until_ := by
  induction fuel generalizing due now with
  | zero =>
    refine ⟨0, by simp [run], ?_⟩
    intro k
    have later := callTime_mono (Nat.zero_le k) due interval
    simp only [Nat.not_lt_zero, false_iff, Int.not_le]
    exact Int.lt_of_lt_of_le enough later
  | succ fuel ih =>
    have wakes : (steady interval due).wakesAt = some (Instant.ceilMillis due) := rfl
    by_cases late : until_ < Instant.ceilMillis due
    · refine ⟨0, by simp [run, wakes, late], ?_⟩
      intro k
      have later := callTime_mono (Nat.zero_le k) due interval
      rw [callTime_zero] at later
      simp only [Nat.not_lt_zero, false_iff, Int.not_le]
      exact Int.lt_of_lt_of_le late later
    · have next_reached : Instant.ceilMillis due ≤ Instant.ceilMillis (due + interval) :=
        Instant.ceilMillis_mono (Int.le_add_of_nonneg_right (Int.natCast_nonneg interval))
      have next (k : Nat) : callTime (due + interval) interval k = callTime due interval (k + 1) := by
        have one := callTime_add due interval 1 k
        rw [Int.natCast_one, Int.one_mul, Nat.add_comm] at one
        exact one
      obtain ⟨count, ran, counted⟩ := ih next_reached (by rw [next]; exact enough)
      refine ⟨count + 1, ?_, ?_⟩
      · have calls (k : Nat) : beatsAt (callTime (due + interval) interval k) =
            beatsAt (callTime due interval (k + 1)) := by rw [next]
        have last : due + interval + count * interval = due + (count + 1 : Nat) * interval := by
          rw [Int.natCast_succ, Int.add_mul, Int.one_mul, Int.add_comm (count * interval : Int),
            Int.add_assoc]
        simp only [run, wakes, if_neg late, Int.max_eq_right reached, wake_steady, ran, last, calls,
          List.range_succ_eq_map, List.flatMap_cons, List.flatMap_map, callTime_zero]
      · intro k
        cases k with
        | zero =>
          rw [callTime_zero]
          exact ⟨fun _ => Int.not_lt.mp late, fun _ => Nat.succ_pos count⟩
        | succ k => rw [Nat.succ_lt_succ_iff, counted, next]

theorem enough_steady (spaced : 0 < interval) (due until_ : Instant) :
    until_ < callTime due interval ((steady interval due).enough until_) := by
  have whole : (until_ - due).toNat < ((until_ - due).toNat / interval + 1) * interval := by
    rw [Nat.add_mul, Nat.one_mul]
    exact Nat.lt_div_mul_add spaced
  have fits : (until_ - due).toNat < (steady interval due).enough until_ * interval := by
    apply Nat.lt_of_lt_of_le whole
    apply Nat.mul_le_mul_right
    simp only [enough, steady]
    omega
  have far : until_ < due + (steady interval due).enough until_ * interval := by
    have bound (x y : Int) (n m : Nat) (lt : (x - y).toNat < n * m) : x < y + n * m := by
      have cast : ((n * m : Nat) : Int) = n * m := Int.natCast_mul n m
      omega
    exact bound _ _ _ _ fits
  exact Int.lt_of_lt_of_le far (Instant.le_ceilMillis _)

end Schedule
end SessionFleet
