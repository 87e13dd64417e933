import Mathlib.Algebra.Order.Ring.Nat
import Mathlib.Data.List.DropRight
import Mathlib.Data.Nat.Find
import SchemaPlan.Sql.Literal

namespace SchemaPlan.Decimal

theorem roundHalfEven_le (num den : Nat) : roundHalfEven num den ≤ num / den + 1 := by
  unfold roundHalfEven
  dsimp only
  split <;> omega

theorem le_roundHalfEven (num den : Nat) : num / den ≤ roundHalfEven num den := by
  unfold roundHalfEven
  dsimp only
  split <;> omega

/-- What rounds to `m` lies within half a step of it, and at half a step only if `m` is even. -/
theorem roundHalfEven_eq_iff {x m : Nat} :
    roundHalfEven x 2048 = m ↔
      if m % 2 = 0 then 2048 * m ≤ x + 1024 ∧ x ≤ 2048 * m + 1024
      else 2048 * m < x + 1024 ∧ x < 2048 * m + 1024 := by
  unfold roundHalfEven
  dsimp only
  split <;> split <;> omega

section Nearest

variable {n : Nat} (hlow : 0x8000000000000000 ≤ n) (hhigh : n < 0x10000000000000000)

include hlow hhigh

/-- The unsigned words beyond the signed ones have all 64 digits, of which 53 are kept. -/
theorem nearestBits_eq : nearestBits n 1 = 1085 * 0x10000000000000 + roundHalfEven n 2048 := by
  have hlog : n.log2 = 63 := (Nat.log2_eq_iff (by omega)).mpr ⟨hlow, hhigh⟩
  have hone : Nat.log2 1 = 0 := by decide
  have hexponent : binaryExponent n 1 = 11 := by
    -- After division by `2 ^ 10` there are still 54 digits.
    have hdigits : ¬n / 1024 < 0x20000000000000 := by omega
    unfold binaryExponent scale
    rw [if_neg (by omega), hlog, hone]
    simp [hdigits]
  simp [nearestBits, hexponent, scale]

theorem roundHalfEven_bounds :
    0x10000000000000 ≤ roundHalfEven n 2048 ∧ roundHalfEven n 2048 ≤ 0x20000000000000 := by
  have hle := roundHalfEven_le n 2048
  have hge := le_roundHalfEven n 2048
  omega

theorem nearestBits_lt_infinityBits : nearestBits n 1 < infinityBits := by
  have hround := roundHalfEven_bounds hlow hhigh
  rw [nearestBits_eq hlow hhigh]
  unfold infinityBits
  omega

theorem magnitude_nearestBits :
    let x := Binary64.mk (.ofNat (nearestBits n 1))
    x.isNegative = false ∧
      x.magnitude = if roundHalfEven n 2048 < 0x20000000000000
        then .finite (roundHalfEven n 2048) 11 else .finite 0x10000000000000 12 := by
  intro x
  have hround := roundHalfEven_bounds hlow hhigh
  have hbits : x.bits.toNat = 1085 * 0x10000000000000 + roundHalfEven n 2048 := by
    change (UInt64.ofNat (nearestBits n 1)).toNat = _
    rw [nearestBits_eq hlow hhigh]
    exact UInt64.toNat_ofNat_of_lt' (by simp only [UInt64.size]; omega)
  generalize roundHalfEven n 2048 = m at hround hbits ⊢
  have hfield : x.exponentField = if m < 0x20000000000000 then 1086 else 1087 := by
    rw [Binary64.exponentField, hbits]
    split <;> omega
  have hfraction : x.fraction = if m < 0x20000000000000 then m - 0x10000000000000 else 0 := by
    rw [Binary64.fraction, hbits]
    split <;> omega
  constructor
  · rw [Binary64.isNegative, hbits, beq_eq_false_iff_ne]
    omega
  · rw [Binary64.magnitude, hfield, hfraction]
    split
    · have hm : 0x10000000000000 + (m - 0x10000000000000) = m := by omega
      simp [hm]
    · simp

end Nearest

namespace Shortest

/-- The multiple of 10000 nearest to `2048 * m`. -/
def coarse (m : Nat) : Nat :=
  (2048 * m + 5000) / 10000 * 10000

theorem dvd_coarse (m : Nat) : 10000 ∣ coarse m :=
  Nat.dvd_mul_left _ _

/-- Two multiples of 10000 never round to the same. -/
theorem eq_coarse {m x : Nat} (hx : 10000 ∣ x) (hround : roundHalfEven x 2048 = m) :
    x = coarse m := by
  obtain ⟨c, rfl⟩ := hx
  rw [roundHalfEven_eq_iff] at hround
  unfold coarse
  split at hround <;> omega

/-- The number that is written for those that round to `m`. -/
def shown (m : Nat) : Nat :=
  if roundHalfEven (coarse m) 2048 = m then coarse m else (2048 * m + 500) / 1000 * 1000

theorem shown_pos {m : Nat} (hlow : 0x10000000000000 ≤ m) : 0 < shown m := by
  unfold shown coarse
  split <;> omega

/-- A multiple of 10000, or the multiple of 1000 nearest to its float if no multiple of 10000 rounds
to that float. -/
def IsShortest (n : Nat) : Prop :=
  10000 ∣ n ∨
    1000 ∣ n ∧ (∀ x, 10000 ∣ x → roundHalfEven x 2048 ≠ roundHalfEven n 2048) ∧
      n < 2048 * roundHalfEven n 2048 + 500 ∧ 2048 * roundHalfEven n 2048 < n + 500

theorem shown_roundHalfEven_eq_iff {n : Nat} :
    shown (roundHalfEven n 2048) = n ↔ IsShortest n := by
  have hcoarse : 10000 ∣ n → n = coarse (roundHalfEven n 2048) := fun hn => eq_coarse hn rfl
  unfold IsShortest
  generalize hm : roundHalfEven n 2048 = m at hcoarse ⊢
  unfold shown
  split
  · next hround =>
    constructor
    · rintro rfl
      exact .inl (dvd_coarse m)
    · rintro (hn | ⟨-, hnone, -⟩)
      · exact (hcoarse hn).symm
      · exact absurd hround (hnone _ (dvd_coarse m))
  · next hround =>
    constructor
    · intro hn
      refine .inr ⟨hn ▸ Nat.dvd_mul_left _ _, fun x hx hxm => ?_, by omega, by omega⟩
      rw [eq_coarse hx hxm] at hxm
      exact hround hxm
    · rintro (hn | ⟨hn, -, hlow, hhigh⟩)
      · rw [hcoarse hn] at hm
        exact absurd hm hround
      · omega

section Scan

variable {tie : Tie} {m k : Nat} {q point : Int}

/-- The first grid that has a number decides. -/
theorem shortest_eq {c : Nat} (hpoint : decimalPoint (interval m q).mid (interval m q).den = point)
    (hk : k < 17) (hhit : onGrid tie (interval m q) (point - (k + 1)) = some c)
    (hfirst : ∀ j : Nat, j < k → onGrid tie (interval m q) (point - (j + 1)) = none) :
    shortest tie m q = digitsOf c (point - (k + 1)) := by
  have hsplit : List.range 17 = List.range k ++ k :: List.range' (k + 1) (16 - k) := by
    have hsum : 17 = k + (16 - k + 1) := by omega
    rw [hsum, List.range_eq_range', ← List.range'_append_1, List.range'_succ, zero_add,
      List.range_eq_range']
  unfold shortest
  dsimp only
  rw [hpoint, List.findSome?_eq_some_iff.mpr ⟨_, k, _, hsplit, ?_, fun j hj => ?_⟩]
  · rfl
  · rw [hhit]
    rfl
  · rw [hfirst j (List.mem_range.mp hj)]
    rfl

theorem exists_shortest_eq
    (hpoint : decimalPoint (interval m q).mid (interval m q).den = point) (hk : k < 17)
    (hhit : onGrid tie (interval m q) (point - (k + 1)) ≠ none) :
    ∃ j ≤ k, ∃ c, onGrid tie (interval m q) (point - (j + 1)) = some c ∧
      shortest tie m q = digitsOf c (point - (j + 1)) := by
  have hsome : ∃ j : Nat, onGrid tie (interval m q) (point - (j + 1)) ≠ none := ⟨k, hhit⟩
  have hle : Nat.find hsome ≤ k := Nat.find_le hhit
  obtain ⟨c, hc⟩ := Option.ne_none_iff_exists'.mp (Nat.find_spec hsome)
  refine ⟨_, hle, c, hc, shortest_eq hpoint (by omega) hc fun j hj => ?_⟩
  exact not_not.mp (Nat.find_min hsome hj)

end Scan

section Interval

variable {m : Nat} (hm : 0x10000000000000 < m)

include hm

theorem interval_eq :
    interval m 11 = ⟨(4 * m - 2) * 2048, 4 * m * 2048, (4 * m + 2) * 2048, 4, m % 2 == 0⟩ := by
  have hgap : ¬(m = 0x10000000000000 ∧ (-1074 : Int) < 11) := by omega
  unfold interval scale
  rw [if_neg hgap]
  rfl

theorem den_interval : (interval m 11).den = 4 := by
  rw [interval_eq hm]

theorem mid_interval : (interval m 11).mid = 2048 * m * 4 := by
  rw [interval_eq hm]
  dsimp only
  omega

theorem holds_interval (c p : Nat) :
    (interval m 11).holds c (p * 4) 1 = decide (roundHalfEven (c * p) 2048 = m) := by
  have hmul : c * (p * 4) = 4 * (c * p) := by
    rw [Nat.mul_comm p 4, Nat.mul_left_comm]
  rw [interval_eq hm, Interval.holds, hmul, Bool.eq_iff_iff, decide_eq_true_iff,
    roundHalfEven_eq_iff]
  generalize c * p = x
  by_cases heven : m % 2 = 0 <;> simp [heven] <;> omega

/-- On a grid the number below is taken, unless it does not round to `m` or the one above does and
is no farther. -/
theorem onGrid_interval (e : Nat) :
    onGrid .up (interval m 11) e =
      let t := 2048 * m / 10 ^ e
      if roundHalfEven (t * 10 ^ e) 2048 = m ∧
          (roundHalfEven ((t + 1) * 10 ^ e) 2048 = m → 2 * (2048 * m % 10 ^ e) < 10 ^ e) then some t
      else if roundHalfEven ((t + 1) * 10 ^ e) 2048 = m then some (t + 1)
      else none := by
  have hnum : Nat.pow 10 ((e : Int).toNat) = 10 ^ e := rfl
  have hone : Nat.pow 10 ((-(e : Int)).toNat) = 1 := by
    rw [Int.toNat_of_nonpos (by omega)]
  have hbelow (t r : Nat) : (2 * (r * 4) < 10 ^ e * 4 ∨
      2 * (r * 4) = 10 ^ e * 4 ∧ Tie.up = .even ∧ t % 2 = 0) ↔ 2 * r < 10 ^ e := by
    simp only [reduceCtorEq, false_and, and_false, or_false]
    omega
  unfold onGrid
  dsimp only
  rw [hnum, hone, Nat.mul_one, den_interval hm, mid_interval hm,
    Nat.mul_div_mul_right _ _ (by decide), Nat.mul_mod_mul_right, holds_interval hm,
    holds_interval hm]
  simp only [hbelow]
  generalize 2048 * m / 10 ^ e = t
  by_cases hfirst : roundHalfEven (t * 10 ^ e) 2048 = m <;>
    by_cases hsecond : roundHalfEven ((t + 1) * 10 ^ e) 2048 = m <;>
    simp [hfirst, hsecond, apply_ite]

theorem roundHalfEven_of_onGrid {e c : Nat} (h : onGrid .up (interval m 11) e = some c) :
    roundHalfEven (c * 10 ^ e) 2048 = m := by
  rw [onGrid_interval hm] at h
  dsimp only at h
  split at h
  · next hbelow =>
    obtain rfl := Option.some.inj h
    exact hbelow.1
  · split at h
    · next habove =>
      obtain rfl := Option.some.inj h
      exact habove
    · cases h

/-- On the grid of ten thousands and the coarser ones, only one number can decide. -/
theorem mul_pow_eq_coarse {e c : Nat} (he : 4 ≤ e) (h : onGrid .up (interval m 11) e = some c) :
    c * 10 ^ e = coarse m :=
  eq_coarse (Nat.dvd_mul_left_of_dvd (Nat.pow_dvd_pow 10 he) c) (roundHalfEven_of_onGrid hm h)

/-- A grid decides if any number of it rounds to `m`: the two around `2048 * m` are no farther. -/
theorem onGrid_ne_none {e x : Nat} (hx : 10 ^ e ∣ x) (hround : roundHalfEven x 2048 = m) :
    onGrid .up (interval m 11) e ≠ none := by
  have hpos : 0 < 10 ^ e := Nat.pow_pos (by decide)
  have hbelow : 2048 * m / 10 ^ e * 10 ^ e ≤ 2048 * m := Nat.div_mul_le_self _ _
  have habove : 2048 * m < (2048 * m / 10 ^ e + 1) * 10 ^ e :=
    (Nat.div_lt_iff_lt_mul hpos).mp (Nat.lt_succ_self _)
  obtain ⟨c, rfl⟩ := hx
  rw [onGrid_interval hm]
  dsimp only
  generalize 2048 * m / 10 ^ e = t at *
  have hside : 10 ^ e * c ≤ t * 10 ^ e ∨ (t + 1) * 10 ^ e ≤ 10 ^ e * c := by
    rw [Nat.mul_comm]
    rcases Nat.lt_or_ge t c with hlt | hge
    · exact .inr (Nat.mul_le_mul_right _ hlt)
    · exact .inl (Nat.mul_le_mul_right _ hge)
  have heither : roundHalfEven (t * 10 ^ e) 2048 = m ∨
      roundHalfEven ((t + 1) * 10 ^ e) 2048 = m := by
    simp only [roundHalfEven_eq_iff] at hround ⊢
    generalize 10 ^ e * c = x at *
    generalize t * 10 ^ e = y at *
    generalize (t + 1) * 10 ^ e = z at *
    split at hround <;> simp [*] <;> omega
  split
  · exact Option.some_ne_none _
  · next hnot =>
    have hsecond : roundHalfEven ((t + 1) * 10 ^ e) 2048 = m :=
      heither.elim (fun hfirst => by_contra fun h => hnot ⟨hfirst, fun h' => absurd h' h⟩) id
    rw [if_pos hsecond]
    exact Option.some_ne_none _

/-- The grid of thousands always decides, for the multiple nearest to `2048 * m`. -/
theorem onGrid_thousand :
    onGrid .up (interval m 11) (3 : Nat) = some ((2048 * m + 500) / 1000) := by
  have hbelow : roundHalfEven (2048 * m / 10 ^ 3 * 10 ^ 3) 2048 = m := by
    rw [roundHalfEven_eq_iff]
    split <;> omega
  have habove : roundHalfEven ((2048 * m / 10 ^ 3 + 1) * 10 ^ 3) 2048 = m := by
    rw [roundHalfEven_eq_iff]
    split <;> omega
  rw [onGrid_interval hm]
  dsimp only
  rw [if_pos habove]
  split
  · next hnear =>
    have := hnear.2 habove
    congr 1
    omega
  · next hfar =>
    have : ¬2 * (2048 * m % 10 ^ 3) < 10 ^ 3 := fun h => hfar ⟨hbelow, fun _ => h⟩
    congr 1
    omega

variable (hbound : m < 0x20000000000000)

include hbound

theorem decimalPoint_interval : ∃ p : Nat, (p = 19 ∨ p = 20) ∧
    decimalPoint (interval m 11).mid (interval m 11).den = p := by
  have hdiv : 2048 * m * 4 / 4 = 2048 * m := Nat.mul_div_cancel _ (by decide)
  rw [den_interval hm, mid_interval hm, decimalPoint, if_pos (by omega), hdiv]
  refine ⟨_, ?_, rfl⟩
  have hlow : ¬(Nat.toDigits 10 (2048 * m)).length ≤ 18 := by
    rw [Nat.length_toDigits_le_iff (by decide) (by decide)]
    omega
  have hhigh : (Nat.toDigits 10 (2048 * m)).length ≤ 20 := by
    rw [Nat.length_toDigits_le_iff (by decide) (by decide)]
    omega
  omega

end Interval

theorem shortest_interval {m : Nat} (hm : 0x10000000000000 < m) (hbound : m < 0x20000000000000) :
    ∃ c e : Nat, shortest .up m 11 = digitsOf c e ∧ c * 10 ^ e = shown m := by
  obtain ⟨p, hp, hpoint⟩ := decimalPoint_interval hm hbound
  have hgrid (k : Nat) (hk : k < p) : (p : Int) - (k + 1) = (p - (k + 1) : Nat) := by omega
  by_cases hcoarse : roundHalfEven (coarse m) 2048 = m
  · -- The grid of ten thousands has a number, perhaps a coarser one has it already.
    have hfour : (p : Int) - ((p - 5 : Nat) + 1) = (4 : Nat) := by omega
    have hhit : onGrid .up (interval m 11) ((p : Int) - ((p - 5 : Nat) + 1)) ≠ none := by
      rw [hfour]
      exact onGrid_ne_none hm (dvd_coarse m) hcoarse
    obtain ⟨j, hj, c, hc, hshortest⟩ := exists_shortest_eq hpoint (by omega) hhit
    rw [hgrid j (by omega)] at hc hshortest
    refine ⟨c, _, hshortest, ?_⟩
    rw [shown, if_pos hcoarse]
    exact mul_pow_eq_coarse hm (by omega) hc
  · -- Otherwise no grid has a number before that of thousands, which has one.
    have hthree : (p : Int) - ((p - 4 : Nat) + 1) = (3 : Nat) := by omega
    have hhit := onGrid_thousand hm
    rw [← hthree] at hhit
    have hfirst (j : Nat) (hj : j < p - 4) :
        onGrid .up (interval m 11) ((p : Int) - (j + 1)) = none := by
      rw [hgrid j (by omega)]
      by_contra hne
      obtain ⟨c, hc⟩ := Option.ne_none_iff_exists'.mp hne
      have hround := roundHalfEven_of_onGrid hm hc
      rw [mul_pow_eq_coarse hm (by omega) hc] at hround
      exact hcoarse hround
    have hshortest := shortest_eq hpoint (by omega) hhit hfirst
    rw [hthree] at hshortest
    refine ⟨_, 3, hshortest, ?_⟩
    rw [shown, if_neg hcoarse]
    rfl

/-- The least of these floats is written likewise, although the one below it is nearer, and so is
the one that the greatest words are rounded up to. -/
theorem shortest_nearest {m : Nat} (hlow : 0x10000000000000 ≤ m) (hhigh : m ≤ 0x20000000000000) :
    ∃ c e : Nat, (if m < 0x20000000000000 then shortest .up m 11
        else shortest .up 0x10000000000000 12) = digitsOf c e ∧ c * 10 ^ e = shown m := by
  split
  · next hbound =>
    rcases Nat.lt_or_eq_of_le hlow with hm | rfl
    · exact shortest_interval hm hbound
    · exact ⟨9223372036854776, 3, by decide +kernel, by decide +kernel⟩
  · obtain rfl : m = 0x20000000000000 := by omega
    exact ⟨18446744073709552, 3, by decide +kernel, by decide +kernel⟩

theorem toDigits_mul_pow {c : Nat} (hc : 0 < c) (e : Nat) :
    Nat.toDigits 10 (c * 10 ^ e) = Nat.toDigits 10 c ++ List.replicate e '0' := by
  induction e with
  | zero => simp
  | succ e ih =>
    have hpos : 0 < c * 10 ^ e := Nat.mul_pos hc (Nat.pow_pos (by decide))
    have hstep : c * 10 ^ (e + 1) = 10 * (c * 10 ^ e) + 0 := by
      rw [Nat.pow_succ, Nat.add_zero, ← Nat.mul_assoc, Nat.mul_comm]
    rw [hstep, ← Nat.toDigits_append_toDigits (by decide) hpos (by decide), ih,
      Nat.toDigits_zero, List.append_assoc, ← List.replicate_succ']

theorem exists_append_zeros (cs : List Char) :
    ∃ k, cs = trimZeros cs ++ List.replicate k '0' := by
  have hzeros : cs.rtakeWhile (· == '0') =
      List.replicate (cs.rtakeWhile (· == '0')).length '0' :=
    List.eq_replicate_of_mem fun c hc => by simpa using List.mem_rtakeWhile_imp hc
  refine ⟨(cs.rtakeWhile (· == '0')).length, ?_⟩
  rw [← hzeros]
  exact List.rdropWhile_append_rtakeWhile.symm

end Shortest

/-- Without an exponent and a closing point, digits are written with the zeros that they lost. -/
theorem Layout.writePositional_digitsOf {l : Layout} (hl : l.wholeEnd = []) {c : Nat} (hc : 0 < c)
    (e : Nat) : l.writePositional (Shortest.digitsOf c e) = Nat.toDigits 10 (c * 10 ^ e) := by
  rw [Shortest.toDigits_mul_pow hc]
  unfold Shortest.digitsOf
  split
  · next h => exact absurd h Nat.toDigits_ne_nil
  · next d ds h =>
    obtain ⟨k, hk⟩ := Shortest.exists_append_zeros ds
    generalize Shortest.trimZeros ds = ts at hk ⊢
    subst hk
    have hzeros : ((d :: (ts ++ List.replicate k '0')).length + (e : Int) -
        ((d :: ts).length : Int)).toNat = k + e := by
      simp only [List.length_cons, List.length_append, List.length_replicate]
      omega
    unfold writePositional
    dsimp only [Digits.toList]
    rw [if_neg (by simp; omega), if_pos (by simp; omega), hl, zeros, hzeros, h,
      List.append_nil, List.replicate_add]
    simp

theorem writeMagnitude_floatLayout {m : Nat} (hm : 0 < m) (q : Int) :
    Sql.floatLayout.writeMagnitude (.finite m q) =
      Sql.floatLayout.writePositional (Shortest.shortest .up m q) := by
  cases m with
  | zero => exact absurd hm (Nat.lt_irrefl 0)
  | succ m => rfl

theorem write_nearestBits {n : Nat} (hlow : 0x8000000000000000 ≤ n)
    (hhigh : n < 0x10000000000000000) :
    Sql.floatLayout.write ⟨.ofNat (nearestBits n 1)⟩ =
      Numeral.ofNat (Shortest.shown (roundHalfEven n 2048)) := by
  obtain ⟨hsign, hmagnitude⟩ := magnitude_nearestBits hlow hhigh
  have hround := roundHalfEven_bounds hlow hhigh
  obtain ⟨c, e, hdigits, hshown⟩ := Shortest.shortest_nearest hround.1 hround.2
  have hc : 0 < c := Nat.pos_of_mul_pos_right (hshown ▸ Shortest.shown_pos hround.1)
  unfold Layout.write
  dsimp only
  rw [hsign, hmagnitude, Bool.false_and, if_neg Bool.false_ne_true, Numeral.ofNat, ← hshown,
    ← Layout.writePositional_digitsOf (l := Sql.floatLayout) rfl hc, ← hdigits]
  congr 1
  split
  · exact writeMagnitude_floatLayout (by omega) _
  · exact writeMagnitude_floatLayout (by decide) _

end SchemaPlan.Decimal
