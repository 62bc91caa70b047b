import Introduction.Proofs.Cbor.Heads

/-!
# Reading floating-point numbers that were written

A floating-point number is written in the narrowest format that keeps every bit of it.  A narrowed
pattern fits the octets of its format (`FloatFormat.narrow?_lt`), and widening it gives the number
again, so the number is read back bit by bit.  A number that was read from a narrow format can be
written in that format (`FloatFormat.narrow?_widen`); only a NaN may have another pattern then,
since widening makes it quiet.
-/

namespace Introduction.Cbor

namespace FloatFormat

variable {f : FloatFormat}

/-- A pattern put together from fields that fit has the width of its format. -/
lemma assemble_lt {sign exponent fraction : ℕ} (hsign : sign < 2)
    (hexponent : exponent < 2 ^ f.exponentBits) (hfraction : fraction < 2 ^ f.fractionBits) :
    f.assemble sign exponent fraction < 2 ^ (1 + f.exponentBits + f.fractionBits) := by
  have hupper : sign * 2 ^ f.exponentBits + exponent + 1 ≤ 2 ^ (1 + f.exponentBits) := by
    have : sign * 2 ^ f.exponentBits ≤ 1 * 2 ^ f.exponentBits := Nat.mul_le_mul_right _ (by omega)
    rw [pow_add]
    omega
  calc
    f.assemble sign exponent fraction
        < (sign * 2 ^ f.exponentBits + exponent) * 2 ^ f.fractionBits + 2 ^ f.fractionBits := by
      unfold assemble
      omega
    _ = (sign * 2 ^ f.exponentBits + exponent + 1) * 2 ^ f.fractionBits := by ring
    _ ≤ 2 ^ (1 + f.exponentBits) * 2 ^ f.fractionBits := Nat.mul_le_mul_right _ hupper
    _ = 2 ^ (1 + f.exponentBits + f.fractionBits) := (pow_add _ _ _).symm

/-- A fraction loses the bits that do not fit. -/
lemma div_spare_lt {m n : ℕ} (hf : f.fractionBits ≤ n) (hm : m < 2 ^ n) :
    m / 2 ^ (n - f.fractionBits) < 2 ^ f.fractionBits := by
  rw [Nat.div_lt_iff_lt_mul (Nat.two_pow_pos _), ← pow_add]
  rwa [Nat.add_sub_cancel' hf]

/-- A pattern that a double is cut down to has the width of its format. -/
lemma truncate_lt (hf : f.fractionBits ≤ double.fractionBits) {bits : ℕ} (hbits : bits < 2 ^ 64) :
    f.truncate bits < 2 ^ (1 + f.exponentBits + f.fractionBits) := by
  have hsign : double.sign bits < 2 := by
    show bits / 2 ^ 63 < 2
    omega
  have hfraction : double.fraction bits < 2 ^ double.fractionBits :=
    Nat.mod_lt _ (Nat.two_pow_pos _)
  have htop : f.topExponent < 2 ^ f.exponentBits := Nat.sub_lt (Nat.two_pow_pos _) Nat.one_pos
  have hspare := div_spare_lt hf hfraction
  unfold truncate
  dsimp only
  split_ifs with hexponent hsmall
  · exact assemble_lt hsign htop hspare
  · refine assemble_lt hsign (Nat.two_pow_pos _) ?_
    -- the leading bit is written out, and cut off again with the bits that do not fit
    have hsum : 2 ^ double.fractionBits + double.fraction bits < 2 ^ (double.fractionBits + 1) := by
      rw [pow_succ]
      omega
    have hcut := div_spare_lt (f := f) (by omega) hsum
    rw [show double.fractionBits - f.fractionBits + 1 = double.fractionBits + 1 - f.fractionBits by
      omega, pow_add, ← Nat.div_div_eq_div_mul]
    exact (Nat.div_le_self _ _).trans_lt hcut
  · exact assemble_lt hsign ((min_le_right _ _).trans_lt htop) hspare

/-- A narrowed pattern has the width of its format. -/
theorem narrow?_lt (hf : f.fractionBits ≤ double.fractionBits) {bits narrow : ℕ}
    (hbits : bits < 2 ^ 64) (h : f.narrow? bits = some narrow) :
    narrow < 2 ^ (1 + f.exponentBits + f.fractionBits) := by
  unfold narrow? at h
  split_ifs at h
  cases h
  exact truncate_lt hf hbits

/-! ### Narrowing what was widened -/

/-- The fields of a pattern that is put together from fields that fit. -/
lemma fields_assemble (sign : ℕ) {exponent fraction : ℕ} (hexponent : exponent < 2 ^ f.exponentBits)
    (hfraction : fraction < 2 ^ f.fractionBits) :
    f.sign (f.assemble sign exponent fraction) = sign ∧
      f.exponent (f.assemble sign exponent fraction) = exponent ∧
      f.fraction (f.assemble sign exponent fraction) = fraction := by
  have hupper : f.assemble sign exponent fraction / 2 ^ f.fractionBits =
      sign * 2 ^ f.exponentBits + exponent := by
    rw [assemble, Nat.add_comm, Nat.add_mul_div_right _ _ (Nat.two_pow_pos _),
      Nat.div_eq_of_lt hfraction, Nat.zero_add]
  refine ⟨?_, ?_, ?_⟩
  · rw [FloatFormat.sign, Nat.add_comm f.exponentBits, pow_add, ← Nat.div_div_eq_div_mul, hupper,
      Nat.add_comm, Nat.add_mul_div_right _ _ (Nat.two_pow_pos _), Nat.div_eq_of_lt hexponent,
      Nat.zero_add]
  · rw [FloatFormat.exponent, hupper, Nat.add_comm, Nat.add_mul_mod_self_right,
      Nat.mod_eq_of_lt hexponent]
  · rw [FloatFormat.fraction, assemble, Nat.add_comm, Nat.add_mul_mod_self_right,
      Nat.mod_eq_of_lt hfraction]

/-- The fields of a format are narrower than those of a double, so that doubles hold all of its
patterns, and hold its subnormal ones as normal ones. -/
structure Narrower (f : FloatFormat) : Prop where
  fraction_pos : 0 < f.fractionBits
  fraction_lt : f.fractionBits < double.fractionBits
  subnormal : f.fractionBits ≤ double.bias - f.bias
  normal : double.bias - f.bias + f.topExponent ≤ double.topExponent
  top_pos : 0 < f.topExponent

lemma narrower_half : half.Narrower := by constructor <;> decide

lemma narrower_single : single.Narrower := by constructor <;> decide

/-- Cutting down a double that is put together from its fields. -/
lemma truncate_assemble (f : FloatFormat) (sign : ℕ) {exponent fraction : ℕ}
    (hexponent : exponent < 2 ^ double.exponentBits)
    (hfraction : fraction < 2 ^ double.fractionBits) :
    f.truncate (double.assemble sign exponent fraction) =
      if exponent = double.topExponent then
        f.assemble sign f.topExponent (fraction / 2 ^ (double.fractionBits - f.fractionBits))
      else if exponent ≤ double.bias - f.bias then
        f.assemble sign 0 ((2 ^ double.fractionBits + fraction) /
          2 ^ (double.fractionBits - f.fractionBits + 1 + (double.bias - f.bias - exponent)))
      else
        f.assemble sign (min (exponent - (double.bias - f.bias)) f.topExponent)
          (fraction / 2 ^ (double.fractionBits - f.fractionBits)) := by
  obtain ⟨hs, he, hm⟩ := fields_assemble (f := double) sign hexponent hfraction
  unfold truncate
  rw [hs, he, hm]

/-- Widening a pattern that is put together from its fields. -/
lemma widen_assemble (sign : ℕ) {exponent fraction : ℕ} (hexponent : exponent < 2 ^ f.exponentBits)
    (hfraction : fraction < 2 ^ f.fractionBits) :
    f.widen (f.assemble sign exponent fraction) =
      if exponent = f.topExponent then
        if fraction = 0 then double.assemble sign double.topExponent 0
        else double.assemble sign double.topExponent
          (2 ^ 51 + fraction * 2 ^ (double.fractionBits - f.fractionBits) % 2 ^ 51)
      else if exponent = 0 then
        if fraction = 0 then double.assemble sign 0 0
        else
          double.assemble sign (double.bias - f.bias + 1 + fraction.log2 - f.fractionBits)
            ((fraction - 2 ^ fraction.log2) * 2 ^ (double.fractionBits - fraction.log2))
      else double.assemble sign (double.bias - f.bias + exponent)
        (fraction * 2 ^ (double.fractionBits - f.fractionBits)) := by
  obtain ⟨hs, he, hm⟩ := fields_assemble sign hexponent hfraction
  unfold widen
  rw [hs, he, hm]

/-- Every pattern is put together from its fields. -/
lemma assemble_fields (f : FloatFormat) (bits : ℕ) :
    f.assemble (f.sign bits) (f.exponent bits) (f.fraction bits) = bits := by
  unfold assemble sign exponent fraction
  rw [Nat.add_comm f.exponentBits, pow_add, ← Nat.div_div_eq_div_mul, Nat.div_add_mod',
    Nat.div_add_mod']

/-- The fraction of a widened NaN is that of a quiet NaN of the narrower format. -/
lemma quiet_eq (h : f.Narrower) (fraction : ℕ) :
    2 ^ 51 + fraction * 2 ^ (double.fractionBits - f.fractionBits) % 2 ^ 51 =
      (2 ^ (f.fractionBits - 1) + fraction % 2 ^ (f.fractionBits - 1)) *
        2 ^ (double.fractionBits - f.fractionBits) := by
  have hsplit : 2 ^ 51 = 2 ^ (f.fractionBits - 1) * 2 ^ (double.fractionBits - f.fractionBits) := by
    rw [← pow_add]
    have hpos := h.fraction_pos
    have hlt : f.fractionBits < 52 := h.fraction_lt
    exact congrArg (2 ^ ·) (show 51 = f.fractionBits - 1 + (52 - f.fractionBits) by omega)
  rw [hsplit, Nat.mul_mod_mul_right, Nat.add_mul]

/-- The patterns of a NaN that differ in being quiet only widen to the same. -/
lemma widen_quiet (h : f.Narrower) (sign : ℕ) {fraction : ℕ} (hfraction : fraction ≠ 0)
    (hlt : fraction < 2 ^ f.fractionBits) :
    f.widen (f.truncate (f.widen (f.assemble sign f.topExponent fraction))) =
      f.widen (f.assemble sign f.topExponent fraction) := by
  have htop : f.topExponent < 2 ^ f.exponentBits := Nat.sub_lt (Nat.two_pow_pos _) Nat.one_pos
  have hhalf : 2 ^ f.fractionBits = 2 * 2 ^ (f.fractionBits - 1) := by
    rw [← pow_succ', Nat.sub_add_cancel h.fraction_pos]
  have hmod : fraction % 2 ^ (f.fractionBits - 1) < 2 ^ (f.fractionBits - 1) :=
    Nat.mod_lt _ (Nat.two_pow_pos _)
  have hquiet : 2 ^ (f.fractionBits - 1) + fraction % 2 ^ (f.fractionBits - 1) <
      2 ^ f.fractionBits := by
    omega
  have hwiden : f.widen (f.assemble sign f.topExponent fraction) =
      double.assemble sign double.topExponent
        ((2 ^ (f.fractionBits - 1) + fraction % 2 ^ (f.fractionBits - 1)) *
          2 ^ (double.fractionBits - f.fractionBits)) := by
    rw [widen_assemble sign htop hlt, if_pos rfl, if_neg hfraction, quiet_eq h]
  have hfits : (2 ^ (f.fractionBits - 1) + fraction % 2 ^ (f.fractionBits - 1)) *
      2 ^ (double.fractionBits - f.fractionBits) < 2 ^ double.fractionBits := by
    have hsplit : 2 ^ double.fractionBits =
        2 ^ f.fractionBits * 2 ^ (double.fractionBits - f.fractionBits) := by
      rw [← pow_add, Nat.add_sub_cancel' h.fraction_lt.le]
    rw [hsplit]
    exact Nat.mul_lt_mul_of_pos_right hquiet (Nat.two_pow_pos _)
  have hnonzero : 2 ^ (f.fractionBits - 1) + fraction % 2 ^ (f.fractionBits - 1) ≠ 0 := by
    have := Nat.two_pow_pos (f.fractionBits - 1)
    omega
  rw [hwiden, truncate_assemble f sign (by decide) hfits, if_pos rfl,
    Nat.mul_div_cancel _ (Nat.two_pow_pos _), widen_assemble sign htop hquiet, if_pos rfl,
    if_neg hnonzero, quiet_eq h, Nat.add_mod_left, Nat.mod_mod]

/-- A subnormal pattern that is not zero is got back from the double with its value. -/
lemma truncate_widen_subnormal (h : f.Narrower) (sign : ℕ) {fraction : ℕ}
    (hfraction : fraction ≠ 0) (hlt : fraction < 2 ^ f.fractionBits) :
    f.truncate (f.widen (f.assemble sign 0 fraction)) = f.assemble sign 0 fraction := by
  obtain ⟨hpos, hbits, hsubnormal, hnormal, htop⟩ := h
  have hk : fraction.log2 < f.fractionBits := (Nat.log2_lt hfraction).mpr hlt
  have hlow : 2 ^ fraction.log2 ≤ fraction := Nat.log2_self_le hfraction
  have hhigh : fraction < 2 ^ (fraction.log2 + 1) := (Nat.log2_lt hfraction).mp (Nat.lt_succ_self _)
  rw [widen_assemble sign (Nat.two_pow_pos _) hlt, if_neg htop.ne, if_pos rfl, if_neg hfraction]
  generalize fraction.log2 = k at hk hlow hhigh ⊢
  have hsplit : 2 ^ double.fractionBits = 2 ^ k * 2 ^ (double.fractionBits - k) := by
    rw [← pow_add, Nat.add_sub_cancel' (hk.trans hbits).le]
  have hfits : (fraction - 2 ^ k) * 2 ^ (double.fractionBits - k) < 2 ^ double.fractionBits := by
    rw [hsplit]
    refine Nat.mul_lt_mul_of_pos_right ?_ (Nat.two_pow_pos _)
    rw [pow_succ] at hhigh
    omega
  -- the leading bit and the bits below it make up the fraction again
  have hsum : 2 ^ double.fractionBits + (fraction - 2 ^ k) * 2 ^ (double.fractionBits - k) =
      fraction * 2 ^ (double.fractionBits - k) := by
    rw [hsplit, ← Nat.add_mul, Nat.add_sub_cancel' hlow]
  have hshift : double.bias - f.bias + 1 + k - f.fractionBits ≤ double.bias - f.bias := by omega
  have hwidth : double.fractionBits - f.fractionBits + 1 +
      (double.bias - f.bias - (double.bias - f.bias + 1 + k - f.fractionBits)) =
        double.fractionBits - k := by
    omega
  have hbelow : double.bias - f.bias + 1 + k - f.fractionBits < double.topExponent := by
    omega
  rw [truncate_assemble f sign (hbelow.trans (by decide)) hfits, if_neg hbelow.ne, if_pos hshift,
    hsum, hwidth, Nat.mul_div_cancel _ (Nat.two_pow_pos _)]

/-- Every pattern that is no NaN is got back from the double with its value. -/
lemma truncate_widen (h : f.Narrower) (sign : ℕ) {exponent fraction : ℕ}
    (hexponent : exponent < 2 ^ f.exponentBits) (hfraction : fraction < 2 ^ f.fractionBits)
    (hnumber : exponent = f.topExponent → fraction = 0) :
    f.truncate (f.widen (f.assemble sign exponent fraction)) =
      f.assemble sign exponent fraction := by
  obtain ⟨hpos, hbits, hsubnormal, hnormal, -⟩ := id h
  by_cases htop : exponent = f.topExponent
  · obtain rfl := hnumber htop
    rw [widen_assemble sign hexponent hfraction, if_pos htop, if_pos rfl,
      truncate_assemble f sign (by decide) (Nat.two_pow_pos _), if_pos rfl, Nat.zero_div, htop]
  by_cases hzero : exponent = 0
  · subst hzero
    by_cases hfraction' : fraction = 0
    · subst hfraction'
      have hcut : 2 ^ double.fractionBits <
          2 ^ (double.fractionBits - f.fractionBits + 1 + (double.bias - f.bias - 0)) :=
        Nat.pow_lt_pow_right (by decide) (by omega)
      rw [widen_assemble sign hexponent hfraction, if_neg htop, if_pos rfl, if_pos rfl,
        truncate_assemble f sign (Nat.two_pow_pos _) (Nat.two_pow_pos _), if_neg (by decide),
        if_pos (Nat.zero_le _), Nat.add_zero, Nat.div_eq_of_lt hcut]
    · exact truncate_widen_subnormal h sign hfraction' hfraction
  · have hle : exponent < f.topExponent := by
      unfold topExponent at htop ⊢
      omega
    have hsplit : 2 ^ double.fractionBits =
        2 ^ f.fractionBits * 2 ^ (double.fractionBits - f.fractionBits) := by
      rw [← pow_add, Nat.add_sub_cancel' hbits.le]
    have hfits : fraction * 2 ^ (double.fractionBits - f.fractionBits) <
        2 ^ double.fractionBits := by
      rw [hsplit]
      exact Nat.mul_lt_mul_of_pos_right hfraction (Nat.two_pow_pos _)
    have hbelow : double.bias - f.bias + exponent < double.topExponent := by omega
    rw [widen_assemble sign hexponent hfraction, if_neg htop, if_neg hzero,
      truncate_assemble f sign (hbelow.trans (by decide)) hfits, if_neg hbelow.ne,
      if_neg (by omega), Nat.add_sub_cancel_left, min_eq_left hle.le,
      Nat.mul_div_cancel _ (Nat.two_pow_pos _)]

/-- A widened pattern, cut down again, widens to the same. -/
theorem widen_truncate_widen (h : f.Narrower) (bits : ℕ) :
    f.widen (f.truncate (f.widen bits)) = f.widen bits := by
  have hexponent : f.exponent bits < 2 ^ f.exponentBits := Nat.mod_lt _ (Nat.two_pow_pos _)
  have hfraction : f.fraction bits < 2 ^ f.fractionBits := Nat.mod_lt _ (Nat.two_pow_pos _)
  rw [← f.assemble_fields bits]
  by_cases hnumber : f.exponent bits = f.topExponent → f.fraction bits = 0
  · rw [truncate_widen h _ hexponent hfraction hnumber]
  · obtain ⟨htop, hnonzero⟩ := Classical.not_imp.mp hnumber
    rw [htop]
    exact widen_quiet h _ hnonzero hfraction

/-- A widened pattern can be narrowed. -/
lemma narrow?_widen (h : f.Narrower) (bits : ℕ) : (f.narrow? (f.widen bits)).isSome := by
  unfold narrow?
  rw [if_pos (widen_truncate_widen h bits)]
  rfl

/-- A widened pattern has the width of a double. -/
lemma widen_lt (h : f.Narrower) {bits : ℕ}
    (hbits : bits < 2 ^ (1 + f.exponentBits + f.fractionBits)) : f.widen bits < 2 ^ 64 := by
  obtain ⟨hpos, hlt, hsubnormal, hnormal, -⟩ := h
  have hsign : f.sign bits < 2 := by
    rw [sign, Nat.div_lt_iff_lt_mul (Nat.two_pow_pos _), ← pow_succ', Nat.add_comm _ 1,
      ← Nat.add_assoc]
    exact hbits
  have hexponent : f.exponent bits < 2 ^ f.exponentBits := Nat.mod_lt _ (Nat.two_pow_pos _)
  have hfraction : f.fraction bits < 2 ^ f.fractionBits := Nat.mod_lt _ (Nat.two_pow_pos _)
  have hdouble : ∀ {exponent fraction : ℕ}, exponent < 2 ^ double.exponentBits →
      fraction < 2 ^ double.fractionBits →
        double.assemble (f.sign bits) exponent fraction < 2 ^ 64 := fun he hm =>
    assemble_lt hsign he hm
  -- a fraction moved up by the bits that a double has more
  have hmoved : ∀ {m k : ℕ}, k < double.fractionBits → m < 2 ^ k →
      m * 2 ^ (double.fractionBits - k) < 2 ^ double.fractionBits := by
    intro m k hk hm
    calc
      m * 2 ^ (double.fractionBits - k) < 2 ^ k * 2 ^ (double.fractionBits - k) :=
        Nat.mul_lt_mul_of_pos_right hm (Nat.two_pow_pos _)
      _ = 2 ^ double.fractionBits := by rw [← pow_add, Nat.add_sub_cancel' hk.le]
  unfold widen
  dsimp only
  split_ifs with htop hzero hzero' hzero''
  · exact hdouble (by decide) (Nat.two_pow_pos _)
  · refine hdouble (by decide) ?_
    have hmod := Nat.mod_lt (f.fraction bits * 2 ^ (double.fractionBits - f.fractionBits))
      (Nat.two_pow_pos 51)
    show _ < 2 ^ 52
    omega
  · exact hdouble (Nat.two_pow_pos _) (Nat.two_pow_pos _)
  · have hk : (f.fraction bits).log2 < f.fractionBits := (Nat.log2_lt hzero'').mpr hfraction
    have hhigh : f.fraction bits < 2 ^ ((f.fraction bits).log2 + 1) :=
      (Nat.log2_lt hzero'').mp (Nat.lt_succ_self _)
    rw [pow_succ] at hhigh
    have hbelow : double.bias - f.bias + 1 + (f.fraction bits).log2 - f.fractionBits <
        2 ^ double.exponentBits := by
      have htop : double.topExponent < 2 ^ double.exponentBits := by decide
      omega
    exact hdouble hbelow (hmoved (hk.trans hlt) (by omega))
  · have hle : f.exponent bits ≤ f.topExponent := by
      unfold topExponent
      omega
    have htop : double.topExponent < 2 ^ double.exponentBits := by decide
    exact hdouble (by omega) (hmoved hlt hfraction)

end FloatFormat

namespace Head

/-- The head of a floating-point number is read from its initial byte and its pattern. -/
lemma read_seventh (info width n offset : ℕ) (rest : Bytes)
    (hinfo : (info, width) ∈ [(24, 1), (25, 2), (26, 4), (27, 8)]) (hn : n < 256 ^ width) :
    read ⟨offset, UInt8.ofNat (7 * 32 + info) :: (Bytes.ofNat width n ++ rest)⟩ =
      .ok (ofSeventh info (some n), ⟨offset + 1 + width, rest⟩) := by
  have hlt : info < 32 := by
    simp only [List.mem_cons, Prod.mk.injEq, List.not_mem_nil, or_false] at hinfo
    omega
  obtain ⟨hdiv, hmod⟩ := initial_div_mod (show 7 < 8 by omega) hlt
  have hargument := readArgument_following offset (offset + 1) rest hinfo hn
  unfold read
  simp only [hdiv, hmod, hargument]
  rfl

end Head

end Introduction.Cbor
