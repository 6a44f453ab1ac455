import SignIn.Proofs.Calendar
import SignIn.Token

/-!
# Expiry of a token

The lifetime of a token comes from the server, as any number of seconds that a signed word of 64
bits can hold, and the expiry is computed from it. Two limits stand in the way, that of spans and
that of the calendar. What is between them is computed exactly.
-/

namespace SignIn.TokenResponse

variable {t : TokenResponse} {issued : Instant}

theorem expiresAt_of_none (h : t.expiresIn = none) : t.expiresAt issued = .ok none := by
  unfold expiresAt
  rw [h]
  rfl

/-- With a lifetime, the computation does not overflow, and gives the moment that many seconds after
the issue, if the lifetime is a span and the calendar has that moment. -/
theorem expiresAt_of_some {lifetime : Int64} (h : t.expiresIn = some lifetime)
    (issued : Instant) :
    ∃ expiry, t.expiresAt issued = .ok expiry ∧
      ∀ i, expiry = some i ↔ lifetime.toInt.natAbs ≤ Span.longest ∧
        i.unix = issued.unix + lifetime.toInt ∧ i.nanos = issued.nanos := by
  unfold expiresAt
  rw [h, Option.bind_some, Span.ofSeconds?]
  split
  · next hnone =>
    split at hnone
    · cases hnone
    · next hlong =>
      exact ⟨none, rfl, fun i => ⟨fun hi => (by cases hi), fun hi => absurd hi.1 hlong⟩⟩
  · next span hspan =>
    split at hspan
    · next hshort =>
      cases hspan
      obtain ⟨expiry, hexpiry, hspec⟩ := issued.plus_spec ⟨lifetime.toInt, hshort⟩
      exact ⟨expiry, hexpiry, fun i => (hspec i).trans (and_iff_right hshort).symm⟩
    · cases hspan

theorem expiresAt_eq_some {lifetime : Int64} {i : Instant}
    (hlifetime : t.expiresIn = some lifetime) (h : t.expiresAt issued = .ok (some i)) :
    i.unix = issued.unix + lifetime.toInt ∧ i.nanos = issued.nanos := by
  obtain ⟨expiry, hexpiry, hspec⟩ := expiresAt_of_some hlifetime issued
  rw [h] at hexpiry
  exact ((hspec i).mp (Except.ok.inj hexpiry).symm).2

/-- The expiry is exact or absent. To compute it never overflows. It is there exactly if a lifetime
was given that is not longer than the longest span and the sum is a second of the calendar. It then
is that many seconds after the issue, with the same nanoseconds. A longer lifetime ends later. -/
theorem expiry_exact_or_absent (t : TokenResponse) (issued : Instant) :
    (∃ expiry, t.expiresAt issued = .ok expiry ∧
      (expiry.isSome ↔ ∃ lifetime, t.expiresIn = some lifetime ∧
        lifetime.toInt.natAbs ≤ Span.longest ∧
        Instant.firstSecond ≤ issued.unix + lifetime.toInt ∧
        issued.unix + lifetime.toInt ≤ Instant.lastSecond) ∧
      ∀ i, expiry = some i → ∃ lifetime, t.expiresIn = some lifetime ∧
        i.unix = issued.unix + lifetime.toInt ∧ i.nanos = issued.nanos) ∧
    ∀ (shorter longer : Int64) (i j : Instant), shorter < longer →
      { t with expiresIn := some shorter }.expiresAt issued = .ok (some i) →
      { t with expiresIn := some longer }.expiresAt issued = .ok (some j) → i.Before j := by
  constructor
  · cases hlifetime : t.expiresIn with
    | none =>
      refine ⟨none, expiresAt_of_none hlifetime, ?_, fun i hi => by cases hi⟩
      simp
    | some lifetime =>
      obtain ⟨expiry, hexpiry, hspec⟩ := expiresAt_of_some hlifetime issued
      refine ⟨expiry, hexpiry, ?_, fun i hi => ⟨lifetime, rfl, ((hspec i).mp hi).2⟩⟩
      have hreached := Instant.exists_unix_iff (issued.unix + lifetime.toInt) issued.nanos
      rw [Option.isSome_iff_exists]
      constructor
      · rintro ⟨i, hi⟩
        obtain ⟨hshort, hsum⟩ := (hspec i).mp hi
        exact ⟨lifetime, rfl, hshort, hreached.mp ⟨i, hsum⟩⟩
      · rintro ⟨_, hsame, hshort, hin⟩
        cases hsame
        obtain ⟨i, hsum⟩ := hreached.mpr hin
        exact ⟨i, (hspec i).mpr ⟨hshort, hsum⟩⟩
  · intro shorter longer i j hlt hi hj
    obtain ⟨hunix, -⟩ := expiresAt_eq_some rfl hi
    obtain ⟨hunix', -⟩ := expiresAt_eq_some rfl hj
    rw [Int64.lt_iff_toInt_lt] at hlt
    exact Instant.before_of_unix_lt (by omega)

/-- Half a minute before the year 2000, a minute ends in the new year, and two thousand years end in
a year that the calendar has. -/
theorem expiry_exact_over_new_year :
    let issued : Instant := ⟨⟨1999, 365, by decide, by decide⟩, 86370, 999999999⟩
    let minute : Instant := ⟨⟨2000, 1, by decide, by decide⟩, 30, 999999999⟩
    let later : Instant := ⟨⟨3999, 365, by decide, by decide⟩, 86370, 999999999⟩
    let t : TokenResponse := { accessToken := "token" }
    { t with expiresIn := some 60 }.expiresAt issued = .ok (some minute) ∧
      { t with expiresIn := some 63113904000 }.expiresAt issued = .ok (some later) ∧
      minute.Before later := by
  intro issued minute later t
  have hminute : { t with expiresIn := some 60 }.expiresAt issued = .ok (some minute) := by
    decide +kernel
  have hlater : { t with expiresIn := some 63113904000 }.expiresAt issued = .ok (some later) := by
    decide +kernel
  obtain ⟨-, hmonotone⟩ := expiry_exact_or_absent t issued
  exact ⟨hminute, hlater, hmonotone 60 63113904000 minute later (by decide) hminute hlater⟩

end SignIn.TokenResponse
