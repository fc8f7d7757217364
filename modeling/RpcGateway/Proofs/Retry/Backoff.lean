import RpcGateway.Calls.Retry

/-!
# The length of a wait

Seconds and nanoseconds are multiplied apart and the full seconds of the nanoseconds are carried,
but what comes out is the product, cut off at the longest span. The words in which this is computed
change nothing: where one of them would overflow, the product is beyond the longest span. No instant
of the clock lies that far ahead, so a wait that ends on the clock is exactly as long as the
product.
-/

namespace RpcGateway.Calls

/-! ## Spans -/

/-- A span as it is kept: its seconds fit a word, and its nanoseconds make up less than a second. -/
structure Span.WellFormed (s : Span) : Prop where
  secs_le : s.secs ≤ maxSecs
  nanos_lt : s.nanos < nanosPerSec

/-- Spans are compared by their seconds first. -/
instance : LE Span where
  le s t := s.secs < t.secs ∨ s.secs = t.secs ∧ s.nanos ≤ t.nanos

theorem Span.wellFormed_longest : longest.WellFormed := ⟨Nat.le_refl _, by decide⟩

/-- Well-formed spans are in the order of their lengths. -/
theorem Span.le_iff_toNanos_le {s t : Span} (hs : s.WellFormed) (ht : t.WellFormed) :
    s ≤ t ↔ s.toNanos ≤ t.toNanos := by
  have hs := hs.nanos_lt
  have ht := ht.nanos_lt
  change s.secs < t.secs ∨ s.secs = t.secs ∧ s.nanos ≤ t.nanos ↔ _
  unfold toNanos nanosPerSec at *
  omega

theorem Span.toNanos_ofNanos (n : Nat) : (Span.ofNanos n).toNanos = min n Span.longest.toNanos := by
  unfold ofNanos
  split
  · rename_i hle
    exact (Nat.min_eq_right hle).symm
  · rename_i hlt
    rw [Nat.min_eq_left (Nat.le_of_not_le hlt)]
    exact Nat.div_add_mod' n nanosPerSec

/-! ## Multiples -/

/-- With the carry the seconds and nanoseconds of a wait make up the whole product. -/
theorem carry_eq (attempt : Nat) (base : Span) :
    (base.secs * attempt + base.nanos * attempt / Span.nanosPerSec) * Span.nanosPerSec +
        base.nanos * attempt % Span.nanosPerSec = attempt * base.toNanos := by
  have hdiv := Nat.div_add_mod' (base.nanos * attempt) Span.nanosPerSec
  calc
    _ = base.secs * attempt * Span.nanosPerSec +
        (base.nanos * attempt / Span.nanosPerSec * Span.nanosPerSec +
          base.nanos * attempt % Span.nanosPerSec) := by rw [Nat.add_mul, Nat.add_assoc]
    _ = base.secs * attempt * Span.nanosPerSec + base.nanos * attempt := by rw [hdiv]
    _ = attempt * base.toNanos := by
      unfold Span.toNanos
      rw [Nat.mul_add, Nat.mul_comm attempt base.nanos, Nat.mul_right_comm, Nat.mul_comm attempt]

/-- A span is at most the longest one exactly if its seconds are. -/
theorem toNanos_le_longest_iff {s : Span} (h : s.nanos < Span.nanosPerSec) :
    s.toNanos ≤ Span.longest.toNanos ↔ s.secs ≤ Span.maxSecs := by
  unfold Span.toNanos Span.longest
  dsimp only
  constructor
  · intro hle
    refine Nat.le_of_not_lt fun hlt ↦ ?_
    have hmul := Nat.mul_le_mul_right Span.nanosPerSec (Nat.succ_le_of_lt hlt)
    rw [Nat.succ_mul] at hmul
    omega
  · intro hle
    have hmul := Nat.mul_le_mul_right Span.nanosPerSec hle
    omega

theorem toNanos_backoff (attempt : Nat) (base : Span) :
    (backoff attempt base).toNanos = min (attempt * base.toNanos) Span.longest.toNanos := by
  let whole : Span := ⟨base.secs * attempt + base.nanos * attempt / Span.nanosPerSec,
    base.nanos * attempt % Span.nanosPerSec⟩
  have hwhole : whole.toNanos = attempt * base.toNanos := carry_eq attempt base
  have hiff : whole.toNanos ≤ Span.longest.toNanos ↔ whole.secs ≤ Span.maxSecs :=
    toNanos_le_longest_iff (Nat.mod_lt _ (by decide))
  have hcut : backoff attempt base =
      if Span.maxSecs < whole.secs then Span.longest else whole := rfl
  rw [← hwhole, hcut]
  split
  · rename_i hlong
    have hle := Nat.le_of_not_le fun hle ↦ Nat.not_le_of_lt hlong (hiff.mp hle)
    exact (Nat.min_eq_right hle).symm
  · rename_i hshort
    exact (Nat.min_eq_left (hiff.mpr (Nat.le_of_not_lt hshort))).symm

theorem wellFormed_backoff (attempt : Nat) (base : Span) : (backoff attempt base).WellFormed := by
  unfold backoff
  dsimp only
  split
  · exact Span.wellFormed_longest
  · rename_i hshort
    exact ⟨Nat.le_of_not_lt hshort, Nat.mod_lt _ (by decide)⟩

theorem backoff_mono {attempt attempt' : Nat} {base base' : Span} (hbase : base.WellFormed)
    (hbase' : base'.WellFormed) (hattempt : attempt ≤ attempt') (hle : base ≤ base') :
    backoff attempt base ≤ backoff attempt' base' := by
  rw [Span.le_iff_toNanos_le (wellFormed_backoff _ _) (wellFormed_backoff _ _), toNanos_backoff,
    toNanos_backoff]
  have hlen := (Span.le_iff_toNanos_le hbase hbase').mp hle
  exact Nat.le_min.mpr ⟨Nat.le_trans (Nat.min_le_left _ _) (Nat.mul_le_mul hattempt hlen),
    Nat.min_le_right _ _⟩

/-! ## In words -/

/-- A number, if it fits a word of 64 bits. -/
def word? (n : Nat) : Option Nat := if n ≤ Word.max64 then some n else none

theorem word?_of_le {n : Nat} (h : n ≤ Word.max64) : word? n = some n := if_pos h

theorem word?_of_lt {n : Nat} (h : Word.max64 < n) : word? n = none := if_neg (Nat.not_le_of_lt h)

/-- A multiple in words of 64 bits, if it fits: the product of the nanoseconds may come round, that
of the seconds and the carry may not. -/
def Span.times? (s : Span) (n : Nat) : Option Span :=
  let nanos := s.nanos * n % (Word.max64 + 1)
  (word? (s.secs * n)).bind fun secs ↦
    (word? (secs + nanos / nanosPerSec)).map fun secs ↦ ⟨secs, nanos % nanosPerSec⟩

/-- In words no product of nanoseconds comes round, and the longest span stands for all multiples
that do not fit. -/
theorem backoff_eq_times {attempt : Nat} {base : Span} (hbase : base.WellFormed)
    (hattempt : attempt ≤ Word.max32) :
    backoff attempt base = (base.times? attempt).getD .longest := by
  have hnanos : base.nanos * attempt < Word.max64 + 1 :=
    calc
      _ ≤ Span.nanosPerSec * Word.max32 := Nat.mul_le_mul (Nat.le_of_lt hbase.nanos_lt) hattempt
      _ < Word.max64 + 1 := by decide
  unfold backoff Span.times?
  rw [Nat.mod_eq_of_lt hnanos]
  dsimp only
  by_cases hlong : Span.maxSecs < base.secs * attempt + base.nanos * attempt / Span.nanosPerSec
  · rw [if_pos hlong]
    by_cases hsecs : base.secs * attempt ≤ Word.max64
    · rw [word?_of_le hsecs, Option.bind_some, word?_of_lt hlong]
      rfl
    · rw [word?_of_lt (Nat.lt_of_not_le hsecs)]
      rfl
  · have hshort := Nat.le_of_not_lt hlong
    have hsecs := Nat.le_trans (Nat.le_add_right _ _) hshort
    rw [if_neg hlong, word?_of_le hsecs, Option.bind_some, word?_of_le hshort]
    rfl

/-! ## In milliseconds -/

/-- A base that is cut off gives the same waits: they are all cut off, or there is no attempt. -/
theorem backoffMillis_eq_min (attempt baseMs : Nat) :
    backoffMillis attempt baseMs =
      min (attempt * (baseMs * Span.nanosPerMilli)) Span.longest.toNanos / Span.nanosPerMilli := by
  rw [backoffMillis, toNanos_backoff, Span.ofMillis, Span.toNanos_ofNanos]
  congr 1
  obtain rfl | hpos := Nat.eq_zero_or_pos attempt
  · rw [Nat.zero_mul, Nat.zero_mul]
  obtain hle | hle := Nat.le_total (baseMs * Span.nanosPerMilli) Span.longest.toNanos
  · rw [Nat.min_eq_left hle]
  · have hcut := Nat.le_trans hle (Nat.le_mul_of_pos_left _ hpos)
    rw [Nat.min_eq_right hle, Nat.min_eq_right (Nat.le_mul_of_pos_left _ hpos),
      Nat.min_eq_right hcut]

/-- A wait that is not cut off is the product. -/
theorem backoffMillis_eq_of_le {attempt baseMs : Nat}
    (h : attempt * (baseMs * Span.nanosPerMilli) ≤ Span.longest.toNanos) :
    backoffMillis attempt baseMs = attempt * baseMs := by
  rw [backoffMillis_eq_min, Nat.min_eq_left h, ← Nat.mul_assoc]
  exact Nat.mul_div_cancel _ (by decide)

end RpcGateway.Calls
