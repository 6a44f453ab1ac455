import SignIn.Calendar
import Mathlib.Tactic.ByContra
import Mathlib.Tactic.NormNum

/-!
# The calendar is exact

Every day has its own number, and the numbers of the calendar's days follow each other without a
gap. Adding days adds to the number, whether the day stays in its year or not; adding a span adds to
the seconds since 1970. What is computed on the way fits its word, and nothing is missing but what
the calendar does not reach.
-/

namespace SignIn

open Calendar

/-! ## Words -/

namespace Word

variable {bits : Nat} {n : Int}

theorem hold_bind {α : Type} (h : Fits bits n) (f : Int → Except Overflow α) :
    hold bits n >>= f = f n := by
  rw [hold, if_pos h]
  rfl

theorem hold?_of_fits (h : Fits bits n) : hold? bits n = some n := if_pos h

theorem hold?_of_not_fits (h : ¬ Fits bits n) : hold? bits n = none := if_neg h

theorem fits_32_iff : Fits 32 n ↔ -2147483648 ≤ n ∧ n < 2147483648 := by
  unfold Fits
  norm_num

theorem fits_64_iff : Fits 64 n ↔ -9223372036854775808 ≤ n ∧ n < 9223372036854775808 := by
  unfold Fits
  norm_num

end Word

/-! ## Years -/

namespace Calendar

theorem daysIn_cases (year : Int) :
    IsLeap year ∧ daysIn year = 366 ∨ ¬ IsLeap year ∧ daysIn year = 365 := by
  unfold daysIn
  split
  · next h => exact .inl ⟨h, rfl⟩
  · next h => exact .inr ⟨h, rfl⟩

theorem daysBefore_succ (year : Int) : daysBefore (year + 1) = daysBefore year + daysIn year := by
  unfold daysBefore
  rcases daysIn_cases year with ⟨hleap, hdays⟩ | ⟨hleap, hdays⟩
  all_goals
    rw [hdays]
    unfold IsLeap at hleap
    omega

theorem daysBefore_le {a b : Int} (h : a ≤ b) : daysBefore a ≤ daysBefore b := by
  unfold daysBefore
  omega

theorem daysBefore_add_le {a b : Int} (h : a < b) : daysBefore a + daysIn a ≤ daysBefore b := by
  rw [← daysBefore_succ]
  exact daysBefore_le h

theorem daysBefore_eq (year : Int) :
    daysBefore year = year / 400 * cycleDays +
      ((year % 400).toNat * 365 + leapsBefore (year % 400).toNat : Nat) := by
  unfold daysBefore leapsBefore cycleDays
  omega

theorem leapsBefore_add (year : Nat) :
    leapsBefore year + (year + 99) / 100 = (year + 3) / 4 + (year + 399) / 400 := by
  unfold leapsBefore
  omega

theorem leapsBefore_succ (year : Nat) :
    leapsBefore (year + 1) + 365 = leapsBefore year + daysIn year := by
  have hyear := leapsBefore_add year
  have hnext := leapsBefore_add (year + 1)
  rcases daysIn_cases year with ⟨hleap, hdays⟩ | ⟨hleap, hdays⟩
  all_goals
    rw [hdays]
    unfold IsLeap at hleap
    omega

theorem placeOf_ofPlace {place : Nat} (h : place < cycleDays) :
    (ofPlace place).1 < 400 ∧ 1 ≤ (ofPlace place).2 ∧
      (ofPlace place).2 ≤ daysIn (ofPlace place).1 ∧
      placeOf (ofPlace place).1 (ofPlace place).2 = place := by
  have hsplit : place / 365 * 365 + place % 365 = place := Nat.div_add_mod' place 365
  have hrest : place % 365 < 365 := Nat.mod_lt _ (by omega)
  have hyear : place / 365 ≤ 400 := by
    unfold cycleDays at h
    omega
  generalize hy : place / 365 = year at hsplit hyear
  generalize hr : place % 365 = rest at hsplit hrest
  unfold ofPlace
  rw [hy, hr]
  dsimp only
  split
  · next hlt =>
    -- The leap days before this year are more than the rest, so that the day is of the year before.
    cases year with
    | zero => exact absurd hlt (Nat.not_lt_zero rest)
    | succ year =>
      have hleaps := leapsBefore_succ year
      have hbound : leapsBefore year ≤ 97 := by
        unfold leapsBefore
        omega
      unfold placeOf
      rw [Nat.add_sub_cancel]
      dsimp only
      omega
  · next hlt =>
    have hleaps := leapsBefore_succ year
    have hfull : leapsBefore 400 = 97 := rfl
    have hyear : year < 400 := by
      rcases Nat.lt_or_eq_of_le hyear with hyear | rfl
      · exact hyear
      · unfold cycleDays at h
        omega
    have hlong := daysIn_cases year
    unfold placeOf
    dsimp only
    omega

end Calendar

/-! ## Days -/

namespace Day

variable {d e : Day}

theorem of?_eq_some_iff {year ordinal : Int} :
    of? year ordinal = some d ↔ d.year = year ∧ (d.ordinal : Int) = ordinal := by
  unfold of?
  constructor
  · intro h
    split at h
    · next hday =>
      cases h
      exact ⟨rfl, Int.toNat_of_nonneg (by omega)⟩
    · cases h
  · rintro ⟨rfl, rfl⟩
    have hin := d.inYear
    rw [dif_pos ⟨d.reached, by omega⟩]
    rfl

theorem number_eq (d : Day) :
    d.number = d.year / 400 * cycleDays + d.place - daysBefore 1970 := by
  have hin := d.inYear
  unfold number place placeOf
  rw [daysBefore_eq]
  omega

theorem number_bounds (d : Day) :
    daysBefore firstYear - daysBefore 1970 ≤ d.number ∧
      d.number < daysBefore (lastYear + 1) - daysBefore 1970 := by
  have hin := d.inYear
  have hfirst := daysBefore_le d.reached.1
  have hlast := daysBefore_add_le (Int.lt_add_one_of_le d.reached.2)
  unfold number
  omega

theorem place_lt (d : Day) : d.place < cycleDays := by
  have hin := d.inYear
  have hfull := daysBefore_add_le (a := d.year) (b := (d.year / 400 + 1) * 400) (by omega)
  rw [daysBefore_eq, daysBefore_eq] at hfull
  have hcycle : (d.year / 400 + 1) * 400 / 400 = d.year / 400 + 1 := by omega
  have hzero : (d.year / 400 + 1) * 400 % 400 = 0 := by omega
  rw [hcycle, hzero] at hfull
  unfold place placeOf
  simp only [leapsBefore, cycleDays] at hfull ⊢
  omega

end Day

theorem Calendar.eq_of_daysBefore_add {a b : Int} {m n : Nat} (hm : 1 ≤ m ∧ m ≤ daysIn a)
    (hn : 1 ≤ n ∧ n ≤ daysIn b) (h : daysBefore a + m = daysBefore b + n) : a = b ∧ m = n := by
  rcases Int.lt_trichotomy a b with hlt | rfl | hlt
  · have := daysBefore_add_le hlt
    omega
  · exact ⟨rfl, by omega⟩
  · have := daysBefore_add_le hlt
    omega

namespace Day

variable {d e : Day}

theorem eq_of_number (h : d.number = e.number) : d = e := by
  obtain ⟨year, ordinal, hreached, hin⟩ := d
  obtain ⟨year', ordinal', hreached', hin'⟩ := e
  obtain ⟨rfl, rfl⟩ := eq_of_daysBefore_add hin hin' (by simpa [number] using h)
  rfl

/-- The year and the place in the year that are found through the cycles are a place of that year,
and as many days stand before it as were asked for. -/
theorem daysBefore_ofPlace (n : Int) {year : Int} {ordinal : Nat}
    (hyear : year = n / cycleDays * 400 + (ofPlace (n % cycleDays).toNat).1)
    (hordinal : ordinal = (ofPlace (n % cycleDays).toNat).2) :
    (1 ≤ ordinal ∧ ordinal ≤ daysIn year) ∧ daysBefore year + ordinal - 1 = n := by
  have hlt : (n % cycleDays).toNat < cycleDays := by
    unfold cycleDays
    omega
  obtain ⟨hcycle, hone, hle, hplace⟩ := placeOf_ofPlace hlt
  rw [← hordinal] at hone hle hplace
  generalize (ofPlace (n % cycleDays).toNat).1 = yearOfCycle at *
  have hquotient : year / 400 = n / cycleDays := by omega
  have hrest : year % 400 = yearOfCycle := by omega
  have hlong : daysIn year = daysIn yearOfCycle := by
    unfold daysIn IsLeap
    congr 1
    apply propext
    omega
  refine ⟨⟨hone, hlong ▸ hle⟩, ?_⟩
  rw [daysBefore_eq, hquotient, hrest, Int.toNat_natCast]
  unfold placeOf at hplace
  unfold cycleDays at *
  omega

/-- The day that is found through the cycles has the number that was asked for. -/
theorem of?_ofPlace_iff (n : Int) :
    of? (n / cycleDays * 400 + (ofPlace (n % cycleDays).toNat).1)
        (ofPlace (n % cycleDays).toNat).2 = some d ↔
      d.number = n - daysBefore 1970 := by
  obtain ⟨hin, hdays⟩ := daysBefore_ofPlace n rfl rfl
  rw [of?_eq_some_iff]
  constructor
  · rintro ⟨hyear, hordinal⟩
    rw [number, hyear, hordinal, hdays]
  · intro h
    unfold number at h
    obtain ⟨hyear, hordinal⟩ := eq_of_daysBefore_add d.inYear hin (by omega)
    exact ⟨hyear, congrArg Nat.cast hordinal⟩

theorem ofNumber?_eq_some_iff {n : Int} : ofNumber? n = some d ↔ d.number = n := by
  have h := of?_ofPlace_iff (d := d) (n + daysBefore 1970)
  rw [Int.add_sub_cancel] at h
  exact h

/-- The numbers of the calendar's days follow each other without a gap. -/
theorem exists_number_iff (n : Int) :
    (∃ d : Day, d.number = n) ↔
      daysBefore firstYear - daysBefore 1970 ≤ n ∧
        n < daysBefore (lastYear + 1) - daysBefore 1970 := by
  constructor
  · rintro ⟨d, rfl⟩
    exact d.number_bounds
  · rintro ⟨hfirst, hlast⟩
    obtain ⟨hin, hdays⟩ := daysBefore_ofPlace (n + daysBefore 1970) rfl rfl
    generalize (n + daysBefore 1970) / cycleDays * 400 + _ = year at hin hdays
    have hnext := daysBefore_succ year
    have hreached : firstYear ≤ year ∧ year ≤ lastYear := by
      constructor
      · by_contra hlt
        have := daysBefore_le (a := year + 1) (b := firstYear) (by omega)
        omega
      · by_contra hlt
        have := daysBefore_le (a := lastYear + 1) (b := year) (by omega)
        omega
    refine ⟨⟨year, _, hreached, hin⟩, ?_⟩
    rw [number, hdays]
    omega

theorem number_of_near {days : Int} {later : Day}
    (h : (Word.hold? 32 (d.ordinal + days)).bind (of? d.year) = some later) :
    later.number = d.number + days := by
  obtain ⟨ordinal, hordinal, hlater⟩ := Option.bind_eq_some_iff.mp h
  obtain ⟨hyear, hplaced⟩ := of?_eq_some_iff.mp hlater
  have hsum : (later.ordinal : Int) = d.ordinal + days := by
    unfold Word.hold? at hordinal
    split at hordinal
    · cases hordinal
      exact hplaced
    · cases hordinal
  unfold number
  rw [hyear, hsum]
  omega

theorem place_add (d : Day) (days : Int) :
    d.year / 400 + (d.place + days) / cycleDays =
        (d.number + days + daysBefore 1970) / cycleDays ∧
      (d.place + days) % cycleDays = (d.number + days + daysBefore 1970) % cycleDays := by
  have hnumber := d.number_eq
  unfold cycleDays at *
  constructor <;> omega

/-- Adding days that fit 32 bits does not overflow, and gives the day with the sum for a number, if
the calendar has one. -/
theorem plus_spec (d : Day) {days : Int} (h : Word.Fits 32 days) :
    ∃ later, d.plus days = .ok later ∧ ∀ e, later = some e ↔ e.number = d.number + days := by
  have hbounds := d.number_bounds
  have hfirst : daysBefore firstYear - daysBefore 1970 = -96465292 := by decide
  have hlast : daysBefore (lastYear + 1) - daysBefore 1970 = 95026237 := by decide
  rw [hfirst, hlast] at hbounds
  have hplace := d.place_lt
  rw [Word.fits_32_iff] at h
  unfold plus
  cases hnear : (Word.hold? 32 (d.ordinal + days)).bind (of? d.year) with
  | some day =>
    refine ⟨some day, rfl, fun e => ?_⟩
    rw [← number_of_near hnear]
    constructor
    · intro he
      cases he
      rfl
    · intro he
      rw [eq_of_number he]
  | none =>
    dsimp only
    by_cases hfits : Word.Fits 32 (d.place + days)
    · rw [Word.hold?_of_fits hfits]
      have hepoch : daysBefore 1970 = 719528 := rfl
      obtain ⟨hcycle, hrest⟩ := d.place_add days
      generalize hn : d.number + days + daysBefore 1970 = n at hcycle hrest
      have hbound : -20000 ≤ n / cycleDays ∧ n / cycleDays ≤ 20000 := by
        unfold cycleDays
        omega
      have hyear : (ofPlace (n % cycleDays).toNat).1 < 400 := by
        refine (placeOf_ofPlace ?_).1
        unfold cycleDays
        omega
      have hfits' : ∀ {m : Int}, -20000000 ≤ m ∧ m ≤ 20000000 → Word.Fits 32 m :=
        fun hm => Word.fits_32_iff.mpr (by omega)
      refine ⟨_, ?_, fun e => (of?_ofPlace_iff n).trans (by omega)⟩
      dsimp only
      rw [hcycle, hrest, Word.hold_bind (hfits' (by omega)), Word.hold_bind (hfits' (by omega)),
        Word.hold_bind (hfits' (by omega))]
      rfl
    · rw [Word.hold?_of_not_fits hfits]
      refine ⟨none, rfl, fun e => ⟨fun hnone => (by cases hnone), fun he => ?_⟩⟩
      have hbounds' := e.number_bounds
      rw [hfirst, hlast] at hbounds'
      rw [Word.fits_32_iff] at hfits
      unfold cycleDays at hplace
      omega

end Day

/-! ## Moments -/

namespace Instant

variable {i j : Instant}

theorem clock_eq (seconds : Int) : ((clock seconds : Nat) : Int) = seconds % 86400 := by
  have hnonneg : 0 ≤ seconds % 86400 := by omega
  exact Int.toNat_of_nonneg hnonneg

theorem ofUnix?_eq_some_iff {n : Int} {nanos : Nat} :
    ofUnix? n nanos = some i ↔ i.unix = n ∧ (i.nanos : Nat) = nanos := by
  have hsecond := i.second.isLt
  have hclock := clock_eq n
  unfold ofUnix?
  rw [Option.bind_eq_bind, Option.bind_eq_some_iff]
  constructor
  · rintro ⟨day, hday, hsome⟩
    rw [Day.ofNumber?_eq_some_iff] at hday
    split at hsome
    · cases hsome
      refine ⟨?_, rfl⟩
      rw [unix, hday, clock_eq]
      omega
    · cases hsome
  · rintro ⟨rfl, rfl⟩
    unfold unix at hclock ⊢
    refine ⟨i.day, Day.ofNumber?_eq_some_iff.mpr (by omega), ?_⟩
    rw [dif_pos i.nanos.isLt]
    have hsame : clock (86400 * i.day.number + (i.second : Nat)) = i.second := Fin.ext (by omega)
    rw [hsame]
    rfl

/-- The calendar has every second from its first to its last. -/
theorem exists_unix_iff (n : Int) (nanos : Fin 1000000000) :
    (∃ i : Instant, i.unix = n ∧ i.nanos = nanos) ↔ firstSecond ≤ n ∧ n ≤ lastSecond := by
  have hday := Day.exists_number_iff (n / 86400)
  unfold firstSecond lastSecond
  constructor
  · rintro ⟨i, rfl, -⟩
    have hbounds := i.day.number_bounds
    have hsecond := i.second.isLt
    unfold unix
    omega
  · intro hn
    obtain ⟨day, hnumber⟩ := hday.mpr (by omega)
    refine ⟨⟨day, clock n, nanos⟩, ?_, rfl⟩
    rw [unix, hnumber, clock_eq]
    omega

example : firstSecond = -8334601228800 ∧ lastSecond = 8210266876799 := by decide

theorem days_carried (total : Int)
    (h : (total - (clock total : Nat)).natAbs ≤ Span.longest) :
    Span.days ⟨total - (clock total : Nat), h⟩ = total / 86400 := by
  have hclock := clock_eq total
  have hwhole : total - (clock total : Nat) = total / 86400 * 86400 := by omega
  unfold Span.days
  dsimp only
  rw [hwhole]
  exact Int.mul_tdiv_cancel _ (by omega)

/-- Adding a span does not overflow, and gives the moment that many seconds later, if the calendar
has one. -/
theorem plus_spec (i : Instant) (span : Span) :
    ∃ later, i.plus span = .ok later ∧
      ∀ j, later = some j ↔ j.unix = i.unix + span.seconds ∧ j.nanos = i.nanos := by
  have hlongest : Span.longest = 9223372036854775 := by decide
  have hspan := span.bounded
  have hsecond := i.second.isLt
  have hbounds : ∀ i : Instant, -8334601228800 ≤ i.unix ∧ i.unix ≤ 8210266876799 :=
    fun i => (exists_unix_iff i.unix i.nanos).mp ⟨i, rfl, rfl⟩
  rw [hlongest] at hspan
  have hfits : ∀ {n : Int}, n.natAbs ≤ 9300000000000000 → Word.Fits 64 n :=
    fun hn => Word.fits_64_iff.mpr (by omega)
  generalize htotal : (i.second : Int) + span.seconds = total
  have hclock := clock_eq total
  have hsum : i.unix + span.seconds = 86400 * (i.day.number + total / 86400) + clock total := by
    unfold unix
    omega
  unfold plus
  rw [htotal, Word.hold_bind (hfits (by omega)), Word.hold_bind (hfits (by omega))]
  by_cases hcarried : (total - (clock total : Nat)).natAbs ≤ Span.longest
  · rw [Span.ofSeconds?, dif_pos hcarried]
    dsimp only
    rw [days_carried total hcarried]
    split
    · next hfew =>
      obtain ⟨day, hday, hlater⟩ := i.day.plus_spec hfew
      rw [hday]
      refine ⟨_, rfl, fun j => ?_⟩
      have hclockj := j.second.isLt
      have hclocki := (clock total).isLt
      rw [Option.map_eq_some_iff, hsum]
      constructor
      · rintro ⟨day, hfound, rfl⟩
        rw [hlater] at hfound
        rw [unix, hfound]
        exact ⟨rfl, rfl⟩
      · rintro ⟨hunix, hnanos⟩
        unfold unix at hunix
        have hsecond : clock total = j.second := Fin.ext (by omega)
        refine ⟨j.day, (hlater j.day).mpr (by omega), ?_⟩
        rw [hsecond, ← hnanos]
    · next hfew =>
      refine ⟨none, rfl, fun j => ⟨fun hnone => (by cases hnone), fun hj => ?_⟩⟩
      have := hbounds i
      have := hbounds j
      rw [Word.fits_32_iff] at hfew
      omega
  · rw [Span.ofSeconds?, dif_neg hcarried]
    refine ⟨none, rfl, fun j => ⟨fun hnone => (by cases hnone), fun hj => ?_⟩⟩
    have := hbounds i
    have := hbounds j
    omega

end Instant

/-! ## Earlier and later -/

/-- A day comes before another by its year, and in the same year by its place. -/
def Day.Before (d e : Day) : Prop := d.year < e.year ∨ d.year = e.year ∧ d.ordinal < e.ordinal

/-- A moment comes before another by its day, then by its second, then by its nanoseconds. -/
def Instant.Before (i j : Instant) : Prop :=
  i.day.Before j.day ∨
    i.day = j.day ∧ (i.second < j.second ∨ i.second = j.second ∧ i.nanos < j.nanos)

theorem Day.before_iff {d e : Day} : d.Before e ↔ d.number < e.number := by
  have hin := d.inYear
  have hin' := e.inYear
  unfold Before number
  rcases Int.lt_trichotomy d.year e.year with hlt | heq | hlt
  · have := daysBefore_add_le hlt
    omega
  · rw [heq]
    omega
  · have := daysBefore_add_le hlt
    omega

theorem Instant.before_of_unix_lt {i j : Instant} (h : i.unix < j.unix) : i.Before j := by
  have hsecond := i.second.isLt
  have hsecond' := j.second.isLt
  unfold unix at h
  rcases Int.lt_trichotomy i.day.number j.day.number with hlt | heq | hlt
  · exact .inl (Day.before_iff.mpr hlt)
  · have hlt : i.second < j.second := by
      rw [Fin.lt_def]
      omega
    exact .inr ⟨Day.eq_of_number heq, .inl hlt⟩
  · omega

end SignIn
