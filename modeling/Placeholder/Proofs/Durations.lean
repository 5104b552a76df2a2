import Placeholder.Time.Clock
import Placeholder.Time.Ttl
import Mathlib.Algebra.GroupWithZero.Nat

/-!
# Spans, times to live and the clock

All counts of milliseconds are whole and stay within 64 bits. Whatever way a count is come by, from
seconds, from a span or from another count, it is the exact one as long as that fits, and the
largest one otherwise. So a time to live keeps its length as a span, a span loses less than a
millisecond as a time to live, and a clock that is advanced goes on by what the spans are worth as
times to live, until it stands at the end of its scale. It never wraps around.
-/
namespace Placeholder

theorem toNat_le_largest (n : UInt64) : n.toNat ≤ largest :=
  Nat.le_sub_one_of_lt n.toNat_lt_size

theorem saturate_toNat (n : UInt64) : saturate n.toNat = n := by
  rw [← UInt64.toNat_inj, toNat_saturate, Nat.min_eq_left (toNat_le_largest n)]

theorem saturate_le_saturate {m n : Nat} (h : m ≤ n) : saturate m ≤ saturate n := by
  rw [UInt64.le_iff_toNat_le, toNat_saturate, toNat_saturate]
  exact Nat.le_min.mpr ⟨Nat.le_trans (Nat.min_le_left _ _) h, Nat.min_le_right _ _⟩

theorem saturate_add_saturate (m n : Nat) : saturate (m + (saturate n).toNat) = saturate (m + n) := by
  rw [← UInt64.toNat_inj, toNat_saturate, toNat_saturate, toNat_saturate]
  omega

namespace Duration

/-- The length of a span, down to the nanosecond. -/
def toNanos (d : Duration) : Nat := d.seconds.toNat * 1000000000 + d.nanos

theorem toMillis_eq (d : Duration) : d.toMillis = d.toNanos / 1000000 := by
  unfold toMillis toNanos
  omega

theorem toNanos_ofMillis (millis : UInt64) : (ofMillis millis).toNanos = millis.toNat * 1000000 := by
  have hfits : millis.toNat / 1000 < 2 ^ 64 := Nat.lt_of_le_of_lt (Nat.div_le_self _ _) millis.toNat_lt
  simp only [toNanos, ofMillis, UInt64.toNat_ofNat', Nat.mod_eq_of_lt hfits]
  omega

theorem toMillis_ofMillis (millis : UInt64) : (ofMillis millis).toMillis = millis.toNat := by
  rw [toMillis_eq, toNanos_ofMillis, Nat.mul_div_cancel _ (by decide)]

end Duration

namespace Ttl

theorem ofDuration_eq (d : Duration) : ofDuration d = ⟨saturate (d.toNanos / 1000000)⟩ := by
  rw [ofDuration, d.toMillis_eq]

theorem toNanos_toDuration (t : Ttl) : t.toDuration.toNanos = t.millis.toNat * 1000000 :=
  Duration.toNanos_ofMillis t.millis

theorem ofSeconds_eq_ofDuration (seconds : UInt64) :
    ofSeconds seconds = ofDuration { seconds := seconds, nanos := 0 } := by
  rw [ofSeconds, ofDuration, Duration.toMillis, Nat.zero_div, Nat.add_zero]

theorem ofDuration_toDuration (t : Ttl) : ofDuration t.toDuration = t := by
  rw [ofDuration, toDuration, Duration.toMillis_ofMillis, saturate_toNat]

theorem ofDuration_mono {d e : Duration} (h : d.toNanos ≤ e.toNanos) :
    (ofDuration d).millis ≤ (ofDuration e).millis := by
  rw [ofDuration_eq, ofDuration_eq]
  exact saturate_le_saturate (Nat.div_le_div_right h)

theorem toNanos_ofDuration_le (d : Duration) : (ofDuration d).toDuration.toNanos ≤ d.toNanos := by
  rw [toNanos_toDuration, ofDuration_eq, toNat_saturate]
  exact Nat.le_trans (Nat.mul_le_mul_right _ (Nat.min_le_left _ _)) (Nat.div_mul_le_self _ _)

/-- As a time to live a span loses less than a millisecond, unless it is too long for one. -/
theorem lt_toNanos_ofDuration {d : Duration} (h : d.toNanos / 1000000 ≤ largest) :
    d.toNanos < (ofDuration d).toDuration.toNanos + 1000000 := by
  rw [toNanos_toDuration, ofDuration_eq, toNat_saturate, Nat.min_eq_left h]
  omega

end Ttl

namespace Clock

theorem now_advance (clock : Clock) (d : Duration) :
    (clock.advance d).now = saturate (clock.now.toNat + (Ttl.ofDuration d).millis.toNat) :=
  (saturate_add_saturate _ _).symm

def advanceAll (clock : Clock) (spans : List Duration) : Clock := spans.foldl advance clock

theorem now_advanceAll (clock : Clock) (spans : List Duration) :
    (clock.advanceAll spans).now =
      saturate (clock.now.toNat + (spans.map fun d => (Ttl.ofDuration d).millis.toNat).sum) := by
  induction spans generalizing clock with
  | nil => exact (saturate_toNat clock.now).symm
  | cons d spans ih =>
      have hstep : clock.advanceAll (d :: spans) = (clock.advance d).advanceAll spans := rfl
      rw [hstep, ih, now_advance, Nat.add_comm, saturate_add_saturate, List.map_cons, List.sum_cons]
      congr 1
      omega

theorem now_le_now_advanceAll (clock : Clock) (spans : List Duration) :
    clock.now ≤ (clock.advanceAll spans).now := by
  rw [now_advanceAll]
  calc clock.now = saturate clock.now.toNat := (saturate_toNat _).symm
    _ ≤ _ := saturate_le_saturate (Nat.le_add_right _ _)

end Clock

/-- Times saturate alike, whatever way they are come by. Seconds are worth the same directly and as
a span; a time to live is worth itself as a span; a span is worth its whole milliseconds, at most
the largest number of them, the more the longer it is, and is less than a millisecond short of
itself then unless that was too large; and a clock goes on by as much, up to the largest reading,
once or any number of times, and never back. -/
theorem times_saturate :
    (∀ seconds : UInt64,
      Ttl.ofSeconds seconds = Ttl.ofDuration { seconds := seconds, nanos := 0 }) ∧
    (∀ t : Ttl, Ttl.ofDuration t.toDuration = t) ∧
    (∀ d : Duration, (Ttl.ofDuration d).millis.toNat = min (d.toNanos / 1000000) largest ∧
      (Ttl.ofDuration d).toDuration.toNanos ≤ d.toNanos ∧
      (d.toNanos / 1000000 ≤ largest →
        d.toNanos < (Ttl.ofDuration d).toDuration.toNanos + 1000000)) ∧
    (∀ d e : Duration, d.toNanos ≤ e.toNanos →
      (Ttl.ofDuration d).millis ≤ (Ttl.ofDuration e).millis) ∧
    (∀ (clock : Clock) (d : Duration), (clock.advance d).now.toNat =
      min (clock.now.toNat + (Ttl.ofDuration d).millis.toNat) largest) ∧
    (∀ (clock : Clock) (spans : List Duration), (clock.advanceAll spans).now.toNat =
      min (clock.now.toNat + (spans.map fun d => (Ttl.ofDuration d).millis.toNat).sum) largest ∧
      clock.now ≤ (clock.advanceAll spans).now) := by
  refine ⟨Ttl.ofSeconds_eq_ofDuration, Ttl.ofDuration_toDuration, fun d => ?_,
    fun _ _ => Ttl.ofDuration_mono, fun clock d => ?_, fun clock spans => ?_⟩
  · have hcount : (Ttl.ofDuration d).millis.toNat = min (d.toNanos / 1000000) largest := by
      rw [Ttl.ofDuration_eq, toNat_saturate]
    exact ⟨hcount, Ttl.toNanos_ofDuration_le d, Ttl.lt_toNanos_ofDuration⟩
  · rw [Clock.now_advance, toNat_saturate]
  · exact ⟨by rw [Clock.now_advanceAll, toNat_saturate], clock.now_le_now_advanceAll spans⟩

end Placeholder
