import RuleFlow.Number.Decimal.Context
import RuleFlow.Proofs.Ends
import RuleFlow.Proofs.Number.Grid

/-!
# Sums are rounded once

A context keeps a number of digits, and the result of an operation is the exact result rounded to
them. For a sum that takes an argument, because the smaller of two numbers that are far apart is
never added: a stand-in is, which has one digit and a larger value.

* `RuleFlow.Number.Decimal.Context.Rounds` says what rounding into a context is, and
  `RuleFlow.Number.Decimal.Context.Delivers` that an operation does so or signals an overflow.
* `RuleFlow.Number.Decimal.Context.delivers_fit`: fitting an exact value delivers it.
* `RuleFlow.Number.Decimal.Context.InCell` are the places between two neighbouring numbers that all
  are rounded alike. `RuleFlow.Number.Decimal.Context.exists_inCell_add` and
  `RuleFlow.Number.Decimal.Context.exists_inCell_sub` find one beside a number, in which the smaller
  number of a sum may be replaced.
* `RuleFlow.Number.Decimal.Context.delivers_add`: so addition delivers the exact sum.
-/

namespace RuleFlow.Number

namespace Decimal

/-- The value of a decimal in a unit, times the unit. -/
theorem cast_signedAt (negative : Bool) {c : Nat} {e unit : Int} (h : unit ≤ e) :
    (signedAt negative c e unit : ℚ) * 10 ^ unit = withSign negative (magnitude c e) := by
  rw [← magnitude_scaled h, signedAt, cast_signed, magnitude]
  cases negative <;> simp [withSign]

/-- A whole number of units, by its sign and its magnitude. -/
theorem withSign_natAbs (negative : Bool) {n : ℤ} {unit : Int}
    (h : n ≠ 0 → negative = decide (n < 0)) :
    withSign negative (magnitude n.natAbs unit) = n * 10 ^ unit := by
  by_cases hn : n = 0
  · subst hn
    simp [magnitude, withSign]
  · rw [h hn, withSign, magnitude]
    by_cases hneg : n < 0
    · rw [if_pos (decide_eq_true hneg), Nat.cast_natAbs, abs_of_neg hneg]
      push_cast
      ring
    · rw [if_neg (by simpa using hneg), Nat.cast_natAbs, abs_of_nonneg (Int.not_lt.mp hneg)]

namespace Context

variable {ctx : Context} {q v : ℚ} {c places : Nat} {e : Int}

/-- **The place of the last digit** that a context keeps of a number. -/
def lastPlace (ctx : Context) (q : ℚ) : ℤ :=
  max ctx.tiny (Int.log 10 |q| + 1 - ctx.precision)

/-- **Rounding into a context**, the range of exponents aside. -/
def Rounds (ctx : Context) (q v : ℚ) : Prop :=
  RoundsAt 10 (ctx.lastPlace q) q v

/-- The least power of ten beyond the range of a context. -/
def limit (ctx : Context) : ℚ :=
  10 ^ (ctx.maxExponent + 1)

/-- **A result is rounded once**: it is the exact number rounded into the context. If that is beyond
the range, an overflow is signalled, and nothing else ever is. -/
def Delivers (ctx : Context) (q : ℚ) (result : Except Signal Decimal) : Prop :=
  Ends result (fun d => d.isFinite = true ∧ ctx.Rounds q d.toRat ∧ |d.toRat| < ctx.limit)
    fun s => s = .overflow ∧ ∃ v, ctx.Rounds q v ∧ ctx.limit ≤ |v|

theorem rounds_withSign (negative : Bool) (h : ctx.Rounds q v) :
    ctx.Rounds (withSign negative q) (withSign negative v) := by
  cases negative with
  | false => exact h
  | true =>
    obtain ⟨n, hn, rfl⟩ := h
    have hplace : ctx.lastPlace (-q) = ctx.lastPlace q := by rw [lastPlace, lastPlace, abs_neg]
    refine ⟨-n, ?_, ?_⟩
    · rw [withSign, if_pos rfl, hplace, neg_div]
      exact hn.neg
    · rw [withSign, withSign, if_pos rfl, if_pos rfl, hplace]
      push_cast
      ring

/-! ### Fitting -/

/-- **The check of the range** is the last step of every operation. -/
theorem delivers_checked {negative : Bool} (h : ctx.Rounds q (withSign negative (magnitude c e))) :
    ctx.Delivers q
      (if c = 0 then .ok (.finite negative 0 e)
        else if ctx.maxExponent < adjusted c e then .error .overflow
        else .ok (.finite negative c e)) := by
  have habs := abs_withSign negative (magnitude_nonneg c e)
  by_cases hc : c = 0
  · subst hc
    rw [if_pos rfl]
    refine ⟨rfl, h, ?_⟩
    rw [toRat, habs, magnitude_eq_zero.mpr rfl]
    exact zpow_pos (by norm_num) _
  · have hreach : ctx.maxExponent < adjusted c e ↔ ctx.limit ≤ magnitude c e := by
      rw [adjusted_eq hc, limit, ← Int.add_one_le_iff]
      exact_mod_cast (Int.zpow_le_iff_le_log (b := 10) (by decide) (magnitude_pos hc)).symm
    rw [if_neg hc]
    split_ifs with hover
    · exact ⟨rfl, _, h, habs.symm ▸ hreach.mp hover⟩
    · refine ⟨rfl, h, ?_⟩
      rw [toRat, habs]
      exact not_le.mp (mt hreach.mpr hover)

/-- **Dropping digits** rounds at the place behind them. -/
theorem nearestBy_dropDigits (negative : Bool) (c places : Nat) :
    NearestBy Even ((c : ℚ) / 10 ^ places) (dropDigits negative c places) := by
  rw [dropDigits]
  split_ifs with hshort
  · exact nearestBy_zero hshort
  · have hround := Rounding.nearestBy_quotient_halfEven negative c
      (Nat.pow_pos (by decide) : 0 < tenPow places)
    have hunit : ((10 ^ places : Nat) : ℚ) = 10 ^ places := by exact_mod_cast rfl
    rwa [hunit] at hround

theorem rounds_zero (ctx : Context) : ctx.Rounds 0 0 :=
  ⟨0, by simpa using NearestBy.self Even 0, by simp⟩

/-- **A number that keeps all of its digits** is not changed. -/
theorem rounds_self (h : ctx.lastPlace (magnitude c e) ≤ e) :
    ctx.Rounds (magnitude c e) (magnitude c e) := by
  obtain ⟨k, hk⟩ := Int.le.dest h
  have hmultiple : magnitude c e =
      ((c * 10 ^ k : Nat) : ℤ) * (10 : ℚ) ^ ctx.lastPlace (magnitude c e) := by
    nth_rewrite 1 [magnitude, ← hk]
    rw [zpow_add₀ (by norm_num), zpow_natCast]
    push_cast
    ring
  refine ⟨_, ?_, hmultiple⟩
  nth_rewrite 1 [hmultiple]
  rw [mul_div_cancel_right₀ _ (zpow_ne_zero _ (by norm_num))]
  exact NearestBy.self _ _

/-- Digits that are rounded to more of them than the precision are rounded to a power of ten. -/
theorem eq_pow_of_digitCount {place : ℤ} {n : Nat} (hprecision : 0 < ctx.precision)
    (hplace : Int.log 10 (magnitude c e) + 1 - ctx.precision ≤ place)
    (hn : NearestBy Even (magnitude c e / 10 ^ place) n) (hmany : ctx.precision < digitCount n) :
    n = 10 ^ ctx.precision := by
  have hbelow : magnitude c e / 10 ^ place ≤ ((10 ^ ctx.precision : Nat) : ℤ) := by
    have hlog := Int.lt_zpow_succ_log_self (b := 10) (by decide) (magnitude c e)
    have hpow : (10 : ℚ) ^ (Int.log 10 (magnitude c e) + 1) ≤ 10 ^ (ctx.precision + place) :=
      zpow_le_zpow_right₀ (by norm_num) (by omega)
    rw [div_le_iff₀ (zpow_pos (by norm_num) _)]
    push_cast at hlog ⊢
    rw [← zpow_natCast, ← zpow_add₀ (by norm_num)]
    exact hlog.le.trans hpow
  rw [digitCount_eq] at hmany
  have hsome : n ≠ 0 := by
    rintro rfl
    rw [Nat.log_zero_right] at hmany
    omega
  exact le_antisymm (by exact_mod_cast hn.ge_of_ge hbelow)
    (Nat.pow_le_of_le_log hsome (by omega))

/-- The carry into one digit more than the precision makes a power of ten, of which the last zero is
given back to the exponent. -/
theorem magnitude_carried (hprecision : 0 < ctx.precision) {n : Nat} {place : ℤ}
    (h : n = 10 ^ ctx.precision) : magnitude (n / 10) (place + 1) = magnitude n place := by
  obtain ⟨k, hk⟩ := Nat.exists_eq_succ_of_ne_zero hprecision.ne'
  have hdigit : n = n / 10 * 10 := by
    rw [h, hk, Nat.pow_succ, Nat.mul_div_cancel _ (by decide)]
  nth_rewrite 2 [hdigit]
  rw [magnitude, magnitude, zpow_add_one₀ (by norm_num)]
  push_cast
  ring

/-- **Fitting rounds once.** -/
theorem delivers_fit (hprecision : 0 < ctx.precision) (negative : Bool) (c : Nat) (e : Int) :
    ctx.Delivers (withSign negative (magnitude c e)) (ctx.fit negative c e) := by
  rw [fit]
  by_cases hc : c = 0
  · rw [if_pos hc, magnitude_eq_zero.mpr hc]
    refine delivers_checked (c := 0) (rounds_withSign negative ?_)
    rw [magnitude_eq_zero.mpr rfl]
    exact ctx.rounds_zero
  have hplace : ctx.lastPlace (magnitude c e) =
      max ctx.tiny (e + digitCount c - ctx.precision) := by
    rw [lastPlace, abs_of_nonneg (magnitude_nonneg c e), ← adjusted_eq hc, adjusted]
    congr 1
    omega
  have hkept : Int.log 10 (magnitude c e) + 1 - ctx.precision ≤ ctx.lastPlace (magnitude c e) := by
    rw [lastPlace, abs_of_nonneg (magnitude_nonneg c e)]
    exact le_max_right _ _
  have hself : ctx.lastPlace (magnitude c e) ≤ e → ctx.Rounds (magnitude c e) (magnitude c e) :=
    rounds_self
  rw [if_neg hc, ← hplace]
  dsimp only
  generalize hu : ctx.lastPlace (magnitude c e) = place at *
  by_cases hlow : e < place
  · obtain ⟨k, rfl⟩ := Int.le.dest hlow.le
    have hunits : magnitude c e / 10 ^ (e + k) = c / 10 ^ k := by
      rw [magnitude, zpow_add₀ (by norm_num), zpow_natCast, mul_comm (c : ℚ),
        mul_div_mul_left _ _ (zpow_ne_zero _ (by norm_num))]
    have hplaces : (e + k - e).toNat = k := by omega
    have hn := nearestBy_dropDigits negative c k
    rw [← hunits] at hn
    rw [if_pos hlow, hplaces]
    generalize dropDigits negative c k = n at hn
    by_cases hmany : ctx.precision < digitCount n
    · have hcarry := eq_pow_of_digitCount hprecision hkept hn hmany
      rw [if_pos hmany]
      refine delivers_checked (rounds_withSign negative ⟨n, hu.symm ▸ hn, ?_⟩)
      rw [magnitude_carried hprecision hcarry, hu]
      rfl
    · rw [if_neg hmany]
      refine delivers_checked (rounds_withSign negative ⟨n, hu.symm ▸ hn, ?_⟩)
      rw [hu]
      rfl
  · rw [if_neg hlow]
    exact delivers_checked (rounds_withSign negative (hself (not_lt.mp hlow)))

/-! ### Cells -/

/-- **A cell of a context** lies between two neighbours among the numbers that it can hold and the
middles between them. -/
structure InCell (ctx : Context) (place k : ℤ) (q : ℚ) : Prop where
  /-- The place of the last digit. -/
  place_eq : ctx.lastPlace q = place
  /-- The number is above the lower end. -/
  low : (k : ℚ) / 2 * 10 ^ place < q
  /-- The number is below the upper end. -/
  high : q < ((k : ℚ) + 1) / 2 * 10 ^ place

/-- **Numbers of one cell** are rounded to the same number. -/
theorem InCell.rounds {place k : ℤ} {q' : ℚ} (h : ctx.InCell place k q)
    (h' : ctx.InCell place k q') (hv : ctx.Rounds q v) : ctx.Rounds q' v := by
  obtain ⟨n, hn, rfl⟩ := hv
  have hunit : (0 : ℚ) < 10 ^ place := zpow_pos (by norm_num) _
  rw [h.place_eq] at hn ⊢
  refine ⟨n, ?_, h'.place_eq ▸ rfl⟩
  rw [h'.place_eq]
  exact hn.congr_between ((lt_div_iff₀ hunit).mpr h.low) ((div_lt_iff₀ hunit).mpr h.high)
    ((lt_div_iff₀ hunit).mpr h'.low) ((div_lt_iff₀ hunit).mpr h'.high)

theorem lastPlace_of_between {k : ℤ} (hlow : (10 : ℚ) ^ k ≤ q) (hhigh : q < 10 ^ (k + 1)) :
    ctx.lastPlace q = max ctx.tiny (k + 1 - ctx.precision) := by
  have hpos : 0 < q := (zpow_pos (by norm_num) k).trans_le hlow
  rw [lastPlace, abs_of_pos hpos, log_eq_of_between (b := 10) (by decide)
    (by exact_mod_cast hlow) (by exact_mod_cast hhigh)]

/-- Multiples of a unit are apart by a unit. -/
theorem add_unit_le {unit : ℚ} {a b : ℤ} (hunit : 0 < unit) (h : a * unit < b * unit) :
    a * unit + unit ≤ b * unit := by
  have hlt : a + 1 ≤ b := by
    have := lt_of_mul_lt_mul_right h hunit.le
    exact_mod_cast this
  have hle : (a : ℚ) + 1 ≤ b := by exact_mod_cast hlt
  calc a * unit + unit = (a + 1) * unit := by ring
    _ ≤ b * unit := by gcongr

theorem exists_multiple_magnitude (c : Nat) {unit : ℤ} (h : unit ≤ e) :
    ∃ m : ℤ, magnitude c e = m * 10 ^ unit :=
  exists_multiple 10 (b := 10) (by norm_num) (by norm_num) c h

/-- The middles between two neighbours are multiples of the next smaller power of ten. -/
theorem exists_middle (k : ℤ) {place unit : ℤ} (h : unit < place) :
    ∃ m : ℤ, (k : ℚ) / 2 * 10 ^ place = m * 10 ^ unit := by
  obtain ⟨m, hm⟩ := exists_multiple 10 (b := 10) (by norm_num) (by norm_num) (5 * k)
    (Int.le_sub_one_of_lt h)
  refine ⟨m, ?_⟩
  rw [← hm, zpow_sub_one₀ (by norm_num)]
  push_cast
  ring

/-- **A number with its last digit at a place** is a power of ten, or above one by at least a unit of
that place; and the next power is above it. -/
theorem magnitude_between (hc : c ≠ 0) :
    ((10 : ℚ) ^ adjusted c e = magnitude c e ∨
      (10 : ℚ) ^ adjusted c e + 10 ^ e ≤ magnitude c e) ∧
    magnitude c e + 10 ^ e ≤ 10 ^ (adjusted c e + 1) := by
  have hunit : (0 : ℚ) < 10 ^ e := zpow_pos (by norm_num) e
  have hexponent : adjusted c e = Nat.log 10 c + e := by
    rw [adjusted, digitCount_eq]
    omega
  have hlow : 10 ^ Nat.log 10 c ≤ c := Nat.pow_log_le_self 10 hc
  have hhigh : c + 1 ≤ 10 ^ (Nat.log 10 c + 1) := Nat.lt_pow_succ_log_self (by decide) c
  have hpower : (10 : ℚ) ^ adjusted c e = (10 ^ Nat.log 10 c : Nat) * 10 ^ e := by
    rw [hexponent, zpow_add₀ (by norm_num), zpow_natCast, Nat.cast_pow, Nat.cast_ofNat]
  have hnext : (10 : ℚ) ^ (adjusted c e + 1) = (10 ^ (Nat.log 10 c + 1) : Nat) * 10 ^ e := by
    rw [zpow_add_one₀ (by norm_num), hpower]
    push_cast
    ring
  have hsucc : ∀ n : Nat, (n : ℚ) * 10 ^ e + 10 ^ e = (n + 1 : Nat) * 10 ^ e := fun n => by
    push_cast
    ring
  rw [hpower, hnext, magnitude, hsucc, hsucc]
  constructor
  · rcases hlow.eq_or_lt with heq | hlt
    · left
      rw [heq]
    · right
      gcongr
      exact hlt
  · gcongr

/-- From a multiple of a unit upward a cell reaches for at least that unit. -/
theorem exists_cell_above (b : ℤ) {place unit : ℤ} (h : unit < place) :
    ∃ k : ℤ, (k : ℚ) / 2 * 10 ^ place ≤ b * 10 ^ unit ∧
      b * 10 ^ unit + 10 ^ unit ≤ ((k : ℚ) + 1) / 2 * 10 ^ place := by
  have hhalf : (0 : ℚ) < 10 ^ place / 2 := by positivity
  have hbelow := (le_div_iff₀ hhalf).mp (Int.floor_le ((b : ℚ) * 10 ^ unit / (10 ^ place / 2)))
  have habove := (div_lt_iff₀ hhalf).mp
    (Int.lt_floor_add_one ((b : ℚ) * 10 ^ unit / (10 ^ place / 2)))
  generalize ⌊(b : ℚ) * 10 ^ unit / (10 ^ place / 2)⌋ = k at hbelow habove
  obtain ⟨m, hm⟩ := exists_middle (k + 1) h
  push_cast at hm
  refine ⟨k, by linarith, ?_⟩
  rw [hm]
  exact add_unit_le (by positivity) (by rw [← hm]; linarith)

/-- Downward as well. -/
theorem exists_cell_below (b : ℤ) {place unit : ℤ} (h : unit < place) :
    ∃ k : ℤ, (k : ℚ) / 2 * 10 ^ place ≤ b * 10 ^ unit - 10 ^ unit ∧
      b * 10 ^ unit ≤ ((k : ℚ) + 1) / 2 * 10 ^ place := by
  obtain ⟨k, hlow, hhigh⟩ := exists_cell_above (-b) h
  refine ⟨-k - 1, ?_, ?_⟩
  · push_cast at hhigh ⊢
    linarith
  · push_cast at hlow ⊢
    linarith

/-- **Below a power of ten** the last digit that is kept stands one place further behind, and a cell
ends there. -/
theorem exists_inCell_pow_sub {w : ℤ} (hfar : w < adjusted c e - ctx.precision)
    (hpower : (10 : ℚ) ^ adjusted c e = magnitude c e) :
    ∃ place k, ∀ t : ℚ, 0 < t → t ≤ 10 ^ w → ctx.InCell place k (magnitude c e - t) := by
  have hten : ∀ k : ℤ, (10 : ℚ) ^ k = 10 * 10 ^ (k - 1) := fun k => by
    rw [zpow_sub_one₀ (by norm_num)]
    ring
  have hpos : ∀ k : ℤ, (0 : ℚ) < 10 ^ k := fun k => zpow_pos (by norm_num) k
  obtain ⟨place, hplace⟩ : ∃ place, place = max ctx.tiny (adjusted c e - 1 + 1 - ctx.precision) :=
    ⟨_, rfl⟩
  have hless : ∀ t : ℚ, t ≤ 10 ^ w → t ≤ 10 ^ (adjusted c e - 1) ∧ t ≤ 10 ^ (place - 1) :=
    fun t ht => ⟨ht.trans (zpow_le_zpow_right₀ (by norm_num) (by omega)),
      ht.trans (zpow_le_zpow_right₀ (by norm_num) (by omega))⟩
  have hdigit := hpos (adjusted c e - 1)
  have hdigit' := hpos (place - 1)
  have hnumber := hten (adjusted c e)
  have hunit := hten place
  have hlast : ∀ t : ℚ, 0 < t → t ≤ 10 ^ w → ctx.lastPlace (magnitude c e - t) = place := by
    intro t hpos ht
    rw [hplace]
    refine lastPlace_of_between ?_ ?_
    · linarith [(hless t ht).1]
    · rw [Int.sub_add_cancel]
      linarith
  rcases Int.lt_or_le (adjusted c e) place with hshort | hlong
  · have hpowers : (10 : ℚ) ^ adjusted c e ≤ 10 ^ (place - 1) :=
      zpow_le_zpow_right₀ (by norm_num) (by omega)
    refine ⟨place, 0, fun t hpos ht => ⟨hlast t hpos ht, ?_, ?_⟩⟩
    · rw [Int.cast_zero, zero_div, zero_mul]
      linarith [(hless t ht).1]
    · rw [Int.cast_zero, zero_add]
      linarith
  · obtain ⟨m, hm⟩ := exists_multiple 10 (b := 10) (by norm_num) (by norm_num) 1 hlong
    rw [Int.cast_one, one_mul] at hm
    refine ⟨place, 2 * m - 1, fun t hpos ht => ⟨hlast t hpos ht, ?_, ?_⟩⟩
    · push_cast
      linarith [(hless t ht).2]
    · push_cast
      linarith

section Behind

variable {w : ℤ} (hc : c ≠ 0) (hbehind : w < e) (hfar : w < adjusted c e - ctx.precision)
include hc hbehind hfar

/-- **Above a number** a cell begins that holds whatever is added far behind its last digit. -/
theorem exists_inCell_add :
    ∃ place k, ∀ t : ℚ, 0 < t → t ≤ 10 ^ w → ctx.InCell place k (magnitude c e + t) := by
  obtain ⟨hreached, hnext⟩ := magnitude_between (e := e) hc
  have hunit : (0 : ℚ) < 10 ^ e := zpow_pos (by norm_num) e
  obtain ⟨place, hplace⟩ : ∃ place, place = max ctx.tiny (adjusted c e + 1 - ctx.precision) :=
    ⟨_, rfl⟩
  obtain ⟨b, hb⟩ := exists_multiple_magnitude c (min_le_left e (place - 1))
  obtain ⟨k, hlow, hhigh⟩ := exists_cell_above b (show min e (place - 1) < place by omega)
  rw [← hb] at hlow hhigh
  refine ⟨place, k, fun t hpos ht => ?_⟩
  have hless : t < 10 ^ min e (place - 1) :=
    ht.trans_lt (zpow_lt_zpow_right₀ (by norm_num) (by omega))
  have hless' : t < 10 ^ e := ht.trans_lt (zpow_lt_zpow_right₀ (by norm_num) hbehind)
  refine ⟨hplace.symm ▸ lastPlace_of_between ?_ (by linarith), by linarith, by linarith⟩
  rcases hreached with hreached | hreached <;> linarith

/-- **Below a number** a cell ends that holds whatever is left when so little is taken away. -/
theorem exists_inCell_sub :
    ∃ place k, ∀ t : ℚ, 0 < t → t ≤ 10 ^ w → ctx.InCell place k (magnitude c e - t) := by
  obtain ⟨hpower | habove, hnext⟩ := magnitude_between (e := e) hc
  · exact exists_inCell_pow_sub hfar hpower
  · have hunit : (0 : ℚ) < 10 ^ e := zpow_pos (by norm_num) e
    obtain ⟨place, hplace⟩ : ∃ place, place = max ctx.tiny (adjusted c e + 1 - ctx.precision) :=
      ⟨_, rfl⟩
    obtain ⟨b, hb⟩ := exists_multiple_magnitude c (min_le_left e (place - 1))
    obtain ⟨k, hlow, hhigh⟩ := exists_cell_below b (show min e (place - 1) < place by omega)
    rw [← hb] at hlow hhigh
    refine ⟨place, k, fun t hpos ht => ?_⟩
    have hless : t < 10 ^ min e (place - 1) :=
      ht.trans_lt (zpow_lt_zpow_right₀ (by norm_num) (by omega))
    have hless' : t < 10 ^ e := ht.trans_lt (zpow_lt_zpow_right₀ (by norm_num) hbehind)
    exact ⟨hplace.symm ▸ lastPlace_of_between (by linarith) (by linarith), by linarith,
      by linarith⟩

end Behind

/-! ### Sums -/

theorem Delivers.imp {result : Except Signal Decimal} {q' : ℚ} (h : ctx.Delivers q result)
    (hq : ∀ v, ctx.Rounds q v → ctx.Rounds q' v) : ctx.Delivers q' result :=
  h.mono (fun _ ⟨hfinite, hrounds, hlimit⟩ => ⟨hfinite, hq _ hrounds, hlimit⟩)
    fun _ ⟨hsignal, v, hrounds, hlimit⟩ => ⟨hsignal, v, hq v hrounds, hlimit⟩

/-- **Aligned numbers** are added exactly before the sum is fitted. -/
theorem delivers_addAligned (hprecision : 0 < ctx.precision) (n₁ : Bool) (c₁ : Nat) (e₁ : Int)
    (n₂ : Bool) (c₂ : Nat) (e₂ : Int) :
    ctx.Delivers ((finite n₁ c₁ e₁).toRat + (finite n₂ c₂ e₂).toRat)
      (ctx.addAligned n₁ c₁ e₁ n₂ c₂ e₂) := by
  rw [toRat, toRat, ← cast_signedAt n₁ (min_le_left e₁ e₂), ← cast_signedAt n₂ (min_le_right e₁ e₂),
    ← add_mul, ← Int.cast_add, addAligned]
  generalize signedAt n₁ c₁ e₁ (min e₁ e₂) + signedAt n₂ c₂ e₂ (min e₁ e₂) = sum
  rw [← withSign_natAbs (if sum = 0 then n₁ && n₂ else decide (sum < 0))
    fun hsum => if_neg hsum]
  exact delivers_fit hprecision _ _ _

/-- **The stand-in** for a number far behind another one is as far behind. -/
theorem sticky_cases (ctx : Context) (bigC : Nat) (bigE : Int) (smallC : Nat) (smallE : Int) :
    ctx.sticky bigC bigE smallC smallE = (smallC, smallE) ∨
    ∃ w, ctx.sticky bigC bigE smallC smallE = (1, w) ∧ smallC ≠ 0 ∧ adjusted smallC smallE < w ∧
      w < bigE ∧ w < adjusted bigC bigE - ctx.precision := by
  rw [sticky]
  split_ifs with hmany hsmall hsmall
  · refine .inr ⟨_, rfl, hsmall.1, hsmall.2, ?_, ?_⟩
    · omega
    · rw [adjusted]
      omega
  · exact .inl rfl
  · refine .inr ⟨_, rfl, hsmall.1, hsmall.2, ?_, ?_⟩
    · omega
    · rw [adjusted]
      omega
  · exact .inl rfl

/-- **Whatever is added far behind a number**, the sum is rounded to the same number. -/
theorem rounds_add_behind {w : ℤ} {t t' : ℚ} {n₁ n₂ : Bool} (hc : c ≠ 0) (hbehind : w < e)
    (hfar : w < adjusted c e - ctx.precision) (ht : 0 < t ∧ t ≤ 10 ^ w) (ht' : 0 < t' ∧ t' ≤ 10 ^ w)
    (h : ctx.Rounds (withSign n₁ (magnitude c e) + withSign n₂ t) v) :
    ctx.Rounds (withSign n₁ (magnitude c e) + withSign n₂ t') v := by
  obtain ⟨place, k, hcell⟩ : ∃ place k, ∀ t : ℚ, 0 < t → t ≤ 10 ^ w →
      ctx.InCell place k (magnitude c e + withSign (n₁ != n₂) t) := by
    cases n₁ != n₂ with
    | false => exact exists_inCell_add hc hbehind hfar
    | true =>
      simpa [withSign, sub_eq_add_neg] using exists_inCell_sub hc hbehind hfar
  rw [withSign_add_withSign] at h ⊢
  have hrounds := rounds_withSign n₁ h
  rw [withSign_withSign] at hrounds
  have hrounds' := rounds_withSign n₁
    ((hcell t ht.1 ht.2).rounds (hcell t' ht'.1 ht'.2) hrounds)
  rwa [withSign_withSign] at hrounds'

theorem rounds_of_sticky {bigC smallC : Nat} {bigE smallE : Int} {n₁ n₂ : Bool} (hbig : bigC ≠ 0)
    (h : ctx.Rounds (withSign n₁ (magnitude bigC bigE) +
      withSign n₂ (magnitude (ctx.sticky bigC bigE smallC smallE).1
        (ctx.sticky bigC bigE smallC smallE).2)) v) :
    ctx.Rounds (withSign n₁ (magnitude bigC bigE) + withSign n₂ (magnitude smallC smallE)) v := by
  obtain hsame | ⟨w, hstands, hsmall, hless, hbehind, hfar⟩ :=
    ctx.sticky_cases bigC bigE smallC smallE
  · rwa [hsame] at h
  · have hone : magnitude 1 w = 10 ^ w := by rw [magnitude, Nat.cast_one, one_mul]
    rw [hstands, hone] at h
    have hpow : (0 : ℚ) < 10 ^ w := zpow_pos (by norm_num) w
    have hbound : magnitude smallC smallE < 10 ^ w := by
      rw [adjusted_eq hsmall] at hless
      exact_mod_cast (Int.lt_zpow_iff_log_lt (b := 10) (by decide) (magnitude_pos hsmall)).mpr hless
    exact rounds_add_behind hbig hbehind hfar ⟨hpow, le_rfl⟩ ⟨magnitude_pos hsmall, hbound.le⟩ h

/-- **A sum is rounded once.** -/
theorem delivers_addFinite (hprecision : 0 < ctx.precision) (n₁ : Bool) (c₁ : Nat) (e₁ : Int)
    (n₂ : Bool) (c₂ : Nat) (e₂ : Int) :
    ctx.Delivers ((finite n₁ c₁ e₁).toRat + (finite n₂ c₂ e₂).toRat)
      (ctx.addFinite n₁ c₁ e₁ n₂ c₂ e₂) := by
  have hzero : ∀ {n e}, (finite n 0 e).toRat = 0 := fun {n e} => by
    rw [toRat, magnitude_eq_zero.mpr rfl, withSign_zero]
  rw [addFinite]
  split_ifs with h₁ h₂ h₂ horder
  · subst h₁ h₂
    exact delivers_addAligned hprecision ..
  · subst h₁
    rw [hzero, zero_add, toRat, ← magnitude_scaled (min_le_left e₂ _)]
    exact delivers_fit hprecision ..
  · subst h₂
    rw [hzero, add_zero, toRat, ← magnitude_scaled (min_le_left e₁ _)]
    exact delivers_fit hprecision ..
  · exact (delivers_addAligned hprecision ..).imp fun v hv => rounds_of_sticky h₁ hv
  · refine (delivers_addAligned hprecision ..).imp fun v hv => ?_
    rw [add_comm] at hv ⊢
    exact rounds_of_sticky h₂ hv

/-- **The sum of two numbers** is the exact sum, rounded once. -/
theorem delivers_add (hprecision : 0 < ctx.precision) {x y : Decimal} (hx : x.isFinite = true)
    (hy : y.isFinite = true) : ctx.Delivers (x.toRat + y.toRat) (ctx.add x y) := by
  cases x with
  | finite n₁ c₁ e₁ =>
    cases y with
    | finite n₂ c₂ e₂ => exact delivers_addFinite hprecision ..
    | _ => exact nomatch hy
  | _ => exact nomatch hx

end Context

end Decimal

end RuleFlow.Number
