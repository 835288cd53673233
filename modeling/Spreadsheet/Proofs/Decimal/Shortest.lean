import Spreadsheet.Proofs.Decimal.Significant

/-!
The shortest decimal that reads back. Reading is monotone, so between a decimal that reads as a
pattern and the exact value every decimal reads as it too; a neighbour of the exact value with as
many significant digits stands there. With seventeen digits a neighbour always reads back. So no
decimal that reads as a pattern has fewer significant digits than the one that is written.
-/

namespace Spreadsheet.Decimal

/-! The grid of decimals with a count of digits around a number. -/

/-- The distance between neighbours of as many digits. -/
def gridUnit (count n : Nat) : Nat := 10 ^ ((Nat.toDigits 10 n).length - count)

/-- The neighbour that is not larger. -/
def gridBelow (count n : Nat) : Nat := n / gridUnit count n * gridUnit count n

theorem mem_neighbours {count : Nat} {c d : Decimal} : c ∈ neighbours count d ↔
    c = ⟨gridBelow count d.coefficient, d.places⟩ ∨
      c = ⟨gridBelow count d.coefficient + gridUnit count d.coefficient, d.places⟩ := by
  rw [neighbours]
  simp only [gridBelow, gridUnit, Nat.pow_eq]
  split <;> simp [or_comm]

section

variable {count n : Nat}

theorem gridUnit_pos (count n : Nat) : 0 < gridUnit count n := Nat.pow_pos (by decide)

theorem gridBelow_le (count n : Nat) : gridBelow count n ≤ n := Nat.div_mul_le_self ..

theorem lt_gridBelow_add (count n : Nat) : n < gridBelow count n + gridUnit count n := by
  rw [gridBelow, ← Nat.succ_mul]
  exact (Nat.div_lt_iff_lt_mul (gridUnit_pos count n)).1 (Nat.lt_succ_self _)

theorem length_toDigits_pos (n : Nat) : 0 < (Nat.toDigits 10 n).length :=
  List.length_pos_iff.2 Nat.toDigits_ne_nil

theorem lt_pow_length (n : Nat) : n < 10 ^ (Nat.toDigits 10 n).length :=
  (Nat.length_toDigits_le_iff (by decide) (length_toDigits_pos n)).1 le_rfl

theorem pow_length_le (h : 0 < n) : 10 ^ ((Nat.toDigits 10 n).length - 1) ≤ n := by
  by_contra hlt
  obtain hone | hmore := Nat.eq_zero_or_pos ((Nat.toDigits 10 n).length - 1)
  · rw [hone] at hlt
    omega
  · have := (Nat.length_toDigits_le_iff (by decide) hmore).2 (Nat.lt_of_not_le hlt)
    have := length_toDigits_pos n
    omega

theorem le_gridBelow {j : Nat} (h : j * gridUnit count n ≤ n) :
    j * gridUnit count n ≤ gridBelow count n :=
  Nat.mul_le_mul_right _ ((Nat.le_div_iff_mul_le (gridUnit_pos count n)).2 h)

/-- The first number of the length is on every grid. -/
theorem pow_length_le_gridBelow (hcount : 1 ≤ count) (hlength : count ≤ (Nat.toDigits 10 n).length)
    (hpos : 0 < n) : 10 ^ ((Nat.toDigits 10 n).length - 1) ≤ gridBelow count n := by
  have hgrid : 10 ^ (count - 1) * gridUnit count n = 10 ^ ((Nat.toDigits 10 n).length - 1) := by
    rw [gridUnit, ← Nat.pow_add]
    congr 1
    omega
  rw [← hgrid]
  exact le_gridBelow (hgrid ▸ pow_length_le hpos)

/-- A number of at most as many digits, with zeros behind it, is on the grid or less than every
number of the length. -/
theorem on_grid_or_lt {m : Nat} (e k : Nat) (hm : m < 10 ^ count) (hcount : 1 ≤ count)
    (hlength : count ≤ (Nat.toDigits 10 n).length) (hpos : 0 < n) :
    (∃ j, m * 10 ^ e = j * gridUnit count n * 10 ^ k) ∨
      m * 10 ^ e < gridBelow count n * 10 ^ k := by
  obtain hle | hlt := Nat.lt_or_ge e ((Nat.toDigits 10 n).length - count + k)
  · refine .inr ?_
    calc m * 10 ^ e < 10 ^ count * 10 ^ e := Nat.mul_lt_mul_of_pos_right hm (Nat.pow_pos (by decide))
      _ = 10 ^ (count + e) := (Nat.pow_add ..).symm
      _ ≤ 10 ^ ((Nat.toDigits 10 n).length - 1 + k) := Nat.pow_le_pow_right (by decide) (by omega)
      _ = 10 ^ ((Nat.toDigits 10 n).length - 1) * 10 ^ k := Nat.pow_add ..
      _ ≤ gridBelow count n * 10 ^ k :=
        Nat.mul_le_mul_right _ (pow_length_le_gridBelow hcount hlength hpos)
  · obtain ⟨j, rfl⟩ := Nat.exists_eq_add_of_le hlt
    refine .inl ⟨m * 10 ^ j, ?_⟩
    rw [gridUnit]
    ring

/-- No decimal of as many digits stands between a number and its neighbours. -/
theorem outside_neighbours {m : Nat} (e k : Nat) (hm : m < 10 ^ count) (hcount : 1 ≤ count)
    (hlength : count ≤ (Nat.toDigits 10 n).length) (hpos : 0 < n) :
    m * 10 ^ e ≤ gridBelow count n * 10 ^ k ∨
      (gridBelow count n + gridUnit count n) * 10 ^ k ≤ m * 10 ^ e := by
  obtain ⟨j, hgrid⟩ | hlt := on_grid_or_lt e k hm hcount hlength hpos
  · rw [hgrid]
    by_cases hj : j * gridUnit count n ≤ n
    · exact .inl (Nat.mul_le_mul_right _ (le_gridBelow hj))
    · refine .inr (Nat.mul_le_mul_right _ ?_)
      rw [gridBelow, ← Nat.succ_mul]
      exact Nat.mul_le_mul_right _ (Nat.div_lt_of_lt_mul (by rw [Nat.mul_comm]; omega))
  · exact .inl hlt.le

theorem gridBelow_of_length_le (h : (Nat.toDigits 10 n).length ≤ count) : gridBelow count n = n := by
  rw [gridBelow, gridUnit, Nat.sub_eq_zero_of_le h, Nat.pow_zero, Nat.div_one, Nat.mul_one]

theorem hasDigits_of_mem_neighbours {c d : Decimal} (hcount : 1 ≤ count)
    (hc : c ∈ neighbours count d) : HasDigits count c.coefficient := by
  have hlt : d.coefficient / gridUnit count d.coefficient < 10 ^ count := by
    rw [Nat.div_lt_iff_lt_mul (gridUnit_pos _ _), gridUnit, ← Nat.pow_add]
    exact (lt_pow_length _).trans_le (Nat.pow_le_pow_right (by decide) (by omega))
  obtain rfl | rfl := mem_neighbours.1 hc
  · exact hasDigits_of_le hcount hlt.le
  · simp only [gridBelow, ← Nat.succ_mul]
    exact hasDigits_of_le hcount hlt

end

/-! Which decimals read as a pattern. -/

/-- When a decimal with a count of digits reads as another one does, so does a neighbour of that
one. -/
theorem exists_neighbour_of_reads {c d : Decimal} {count : Nat} (hcount : 1 ≤ count)
    (hc : HasDigits count c.coefficient) (hread : c.nearestPattern = d.nearestPattern)
    (hpos : 0 < d.coefficient) :
    ∃ b ∈ neighbours count d, b.nearestPattern = d.nearestPattern := by
  obtain hshort | hlong := Nat.le_total (Nat.toDigits 10 d.coefficient).length count
  · refine ⟨d, mem_neighbours.2 (.inl ?_), rfl⟩
    rw [gridBelow_of_length_le hshort]
  · obtain ⟨m, e, hm, hlt⟩ := hc
    obtain hbelow | habove := outside_neighbours (e + d.places) c.places hlt hcount hlong hpos
    · rw [Nat.pow_add, ← Nat.mul_assoc, ← hm] at hbelow
      refine ⟨_, mem_neighbours.2 (.inl rfl), le_antisymm ?_ ?_⟩
      · exact nearestPattern_mono (Nat.mul_le_mul_right _ (gridBelow_le _ _))
      · rw [← hread]
        exact nearestPattern_mono hbelow
    · rw [Nat.pow_add, ← Nat.mul_assoc, ← hm] at habove
      refine ⟨_, mem_neighbours.2 (.inr rfl), le_antisymm ?_ ?_⟩
      · rw [← hread]
        exact nearestPattern_mono habove
      · exact nearestPattern_mono (Nat.mul_le_mul_right _ (lt_gridBelow_add _ _).le)

/-- The search ends no later than with the first count for which a neighbour reads back. -/
theorem shortest_mem_neighbours {pattern count : Nat} (hcount : 1 ≤ count) (hle : count ≤ 17)
    {c : Decimal} (hc : c ∈ neighbours count (exact pattern)) (hread : c.nearestPattern = pattern) :
    ∃ k, 1 ≤ k ∧ k ≤ count ∧ shortest pattern ∈ neighbours k (exact pattern) := by
  have hfound : ((List.range 17).findSome? fun k => (neighbours (k + 1) (exact pattern)).find?
      fun c => c.nearestPattern == pattern).isSome = true := by
    refine List.findSome?_isSome_iff.2 ⟨count - 1, List.mem_range.2 (by omega), ?_⟩
    rw [Nat.sub_add_cancel hcount]
    exact List.find?_isSome.2 ⟨c, hc, beq_iff_eq.2 hread⟩
  obtain ⟨d, hd⟩ := Option.isSome_iff_exists.1 hfound
  have hshortest : shortest pattern = d := by simp only [shortest, hd, Option.getD_some]
  obtain ⟨before, k, after, hrange, hk, hnone⟩ := List.findSome?_eq_some_iff.1 hd
  have hmem : count - 1 ∈ before ++ k :: after := by
    rw [← hrange, List.mem_range]
    omega
  have hfirst : k ≤ count - 1 := by
    obtain hbefore | hhere := List.mem_append.1 hmem
    · have := hnone _ hbefore
      rw [Nat.sub_add_cancel hcount] at this
      exact absurd (beq_iff_eq.2 hread) (List.find?_eq_none.1 this c hc)
    · obtain rfl | hafter := List.mem_cons.1 hhere
      · exact le_rfl
      · have hsorted : (before ++ k :: after).Pairwise (· < ·) := hrange ▸ List.pairwise_lt_range
        exact (List.rel_of_pairwise_cons (List.pairwise_append.1 hsorted).2.1 hafter).le
  rw [hshortest]
  exact ⟨k + 1, by omega, by omega, List.mem_of_find?_eq_some hk⟩

/-- A pattern is less than 10^16 gaps away from zero, both of the gap above and of that below. -/
theorem units_lt_gaps (pattern : Nat) : units pattern < 10 ^ 16 * 2 ^ shiftOf pattern ∧
    units (pattern + 1) < 10 ^ 16 * 2 ^ shiftOf pattern := by
  have hlt := mantissaOf_lt pattern
  have hpos := Nat.two_pow_pos (shiftOf pattern)
  rw [units_succ, units, ← Nat.succ_mul]
  exact ⟨Nat.mul_lt_mul_of_pos_right (by omega) hpos, Nat.mul_lt_mul_of_pos_right (by omega) hpos⟩

/-- A number within this distance of a pattern is rounded to it. -/
theorem isNearest_of_close {y : ℚ} {p : Nat} (hp : p ≤ infinite)
    (h : 2 * 10 ^ 16 * |y - units p| ≤ units p) : IsNearest y p := by
  have habove := le_abs_self (y - units p)
  have hbelow := neg_le_abs (y - units p)
  refine isNearest_of_gaps hp (fun _ => ?_) fun r hr => ?_
  · have hgap : (units p : ℚ) < 10 ^ 16 * 2 ^ shiftOf p := by exact_mod_cast (units_lt_gaps p).1
    exact ⟨by linarith, fun heq => by linarith⟩
  · subst hr
    have hgap : (units (r + 1) : ℚ) < 10 ^ 16 * 2 ^ shiftOf r := by
      exact_mod_cast (units_lt_gaps r).2
    exact ⟨by linarith, fun heq => by linarith⟩

theorem nearestPattern_of_close {pattern n : Nat} (hp : pattern < infinite)
    (hup : 2 * 10 ^ 16 * n ≤ (2 * 10 ^ 16 + 1) * (exact pattern).coefficient)
    (hdown : 2 * 10 ^ 16 * (exact pattern).coefficient ≤
      2 * 10 ^ 16 * n + (exact pattern).coefficient) :
    nearestPattern ⟨n, (exact pattern).places⟩ = pattern := by
  refine (isNearest_nearestPattern _).unique (isNearest_of_close hp.le ?_)
  rw [← inUnits_exact, inUnits, inUnits, ← sub_div]
  generalize (exact pattern).coefficient = m at hup hdown
  have hone : (0 : ℚ) ≤ unitsPerOne := Nat.cast_nonneg _
  have hten : (0 : ℚ) < (10 ^ (exact pattern).places : Nat) := by positivity
  generalize unitsPerOne = one at hone
  have hclose : 2 * 10 ^ 16 * |(n : ℚ) - m| ≤ m := by
    have hup : (2 : ℚ) * 10 ^ 16 * n ≤ (2 * 10 ^ 16 + 1) * m := by exact_mod_cast hup
    have hdown : (2 : ℚ) * 10 ^ 16 * m ≤ 2 * 10 ^ 16 * n + m := by exact_mod_cast hdown
    obtain ⟨habs, _⟩ | ⟨habs, _⟩ := abs_cases ((n : ℚ) - m) <;> rw [habs] <;> linarith
  rw [abs_div, abs_of_pos hten, Nat.cast_mul, Nat.cast_mul, ← mul_sub, abs_mul, abs_of_nonneg hone,
    ← mul_div_assoc]
  refine div_le_div_of_nonneg_right ?_ hten.le
  calc 2 * 10 ^ 16 * ((one : ℚ) * |(n : ℚ) - m|)
      = one * (2 * 10 ^ 16 * |(n : ℚ) - m|) := by ring
    _ ≤ (one : ℚ) * m := mul_le_mul_of_nonneg_left hclose hone

/-- The nearer neighbour with seventeen digits reads back. -/
theorem exists_neighbour_seventeen {pattern : Nat} (hp : pattern < infinite)
    (hpos : 0 < (exact pattern).coefficient) :
    ∃ c ∈ neighbours 17 (exact pattern), c.nearestPattern = pattern := by
  obtain hshort | hlong := Nat.le_total (Nat.toDigits 10 (exact pattern).coefficient).length 17
  · refine ⟨exact pattern, mem_neighbours.2 (.inl ?_), nearestPattern_exact pattern hp⟩
    rw [gridBelow_of_length_le hshort]
  · have hunit : 10 ^ 16 * gridUnit 17 (exact pattern).coefficient ≤
        (exact pattern).coefficient := by
      refine le_trans (le_of_eq ?_) (pow_length_le hpos)
      rw [gridUnit, ← Nat.pow_add]
      congr 1
      omega
    have hle := gridBelow_le 17 (exact pattern).coefficient
    have hlt := lt_gridBelow_add 17 (exact pattern).coefficient
    have hnear : 2 * ((exact pattern).coefficient - gridBelow 17 (exact pattern).coefficient) ≤
          gridUnit 17 (exact pattern).coefficient ∨
        2 * (gridBelow 17 (exact pattern).coefficient + gridUnit 17 (exact pattern).coefficient -
          (exact pattern).coefficient) ≤ gridUnit 17 (exact pattern).coefficient := by
      omega
    obtain hbelow | habove := hnear
    · exact ⟨_, mem_neighbours.2 (.inl rfl), nearestPattern_of_close hp (by omega) (by omega)⟩
    · exact ⟨_, mem_neighbours.2 (.inr rfl), nearestPattern_of_close hp (by omega) (by omega)⟩

theorem shortest_of_zero {pattern : Nat} (hp : pattern < infinite)
    (hzero : (exact pattern).coefficient = 0) : shortest pattern = exact pattern := by
  have hfirst : (neighbours (0 + 1) (exact pattern)).find?
      (fun c => c.nearestPattern == pattern) = some (exact pattern) := by
    have hread : ((exact pattern).nearestPattern == pattern) = true :=
      beq_iff_eq.2 (nearestPattern_exact pattern hp)
    generalize exact pattern = d at hzero hread ⊢
    obtain ⟨coefficient, places⟩ := d
    obtain rfl : coefficient = 0 := hzero
    simp only [neighbours, Nat.pow_eq, Nat.zero_div, Nat.zero_mul, Nat.sub_zero, Nat.mul_zero,
      if_pos (show 0 < 10 ^ ((Nat.toDigits 10 0).length - (0 + 1)) from Nat.pow_pos (by decide))]
    exact List.find?_cons_of_pos hread
  have hrange : List.range 17 = 0 :: (List.range 16).map Nat.succ := List.range_succ_eq_map
  simp only [shortest, hrange, List.findSome?_cons, hfirst, Option.getD_some]

/-- A decimal without digits reads as zero. -/
theorem exact_of_reads_zero {d : Decimal} (hzero : d.coefficient = 0) :
    (exact d.nearestPattern).coefficient = 0 := by
  have hle : d.nearestPattern ≤ (exact 0).nearestPattern := by
    apply nearestPattern_mono
    rw [hzero, Nat.zero_mul]
    exact Nat.zero_le _
  rw [nearestPattern_exact 0 (by decide), Nat.le_zero] at hle
  have hmantissa : mantissaOf 0 = 0 := rfl
  rw [hle, exact]
  generalize 1074 = k
  split <;>
  · change mantissaOf 0 * _ = 0
    rw [hmantissa, Nat.zero_mul]

/-- No decimal that reads as a finite pattern has fewer significant digits than the one that is
written. -/
theorem HasDigits.shortest {d : Decimal} {count : Nat} (h : HasDigits count d.coefficient)
    (hp : d.nearestPattern < infinite) :
    HasDigits count (shortest d.nearestPattern).coefficient := by
  obtain hzero | hpos := Nat.eq_zero_or_pos (exact d.nearestPattern).coefficient
  · rw [shortest_of_zero hp hzero, hzero]
    exact hasDigits_zero count
  have hcount : 1 ≤ count := by
    by_contra hnone
    obtain rfl : count = 0 := by omega
    obtain ⟨m, e, hd, hm⟩ := h
    obtain rfl : m = 0 := by simpa using hm
    rw [Nat.zero_mul] at hd
    exact hpos.ne' (exact_of_reads_zero hd)
  obtain ⟨c, hc, hread⟩ : ∃ c ∈ neighbours (min count 17) (exact d.nearestPattern),
      c.nearestPattern = d.nearestPattern := by
    obtain hgt | hle := Nat.lt_or_ge 17 count
    · rw [Nat.min_eq_right hgt.le]
      exact exists_neighbour_seventeen hp hpos
    · have hexact := nearestPattern_exact _ hp
      obtain ⟨c, hc, hread⟩ := exists_neighbour_of_reads hcount h hexact.symm hpos
      rw [Nat.min_eq_left hle]
      exact ⟨c, hc, hread.trans hexact⟩
  obtain ⟨k, hk, hle, hmem⟩ := shortest_mem_neighbours (by omega) (by omega) hc hread
  exact (hasDigits_of_mem_neighbours hk hmem).mono (by omega)

end Spreadsheet.Decimal
