import AccessSync.Directory.Client
import Mathlib.Algebra.Order.Field.Power
import Mathlib.Data.Rat.Cast.Order
import Mathlib.Tactic.FieldSimp
import Mathlib.Tactic.Linarith

/-!
# Which settings name the same client

Tokens are kept by tenant and client, which settings name by a text, a number or a stamp.  What they
are kept under is the same just when the settings are: when they are equal texts, or numbers that
are equal whatever their kind, or name the same point in time.
-/

namespace AccessSync

/-! ## Doubles -/

namespace Decimal

/-- The number that bits stand for, sign apart. -/
def Binary.value (b : Binary) : ℚ := b.mantissa * 2 ^ b.exponent

/-- The number that a double is, if it is one. -/
def value? (bits : Nat) : Option ℚ :=
  if isFiniteBits bits then
    some ((if Nat.pow 2 63 ≤ bits then -1 else 1) * (binaryOfBits bits).value)
  else none

theorem Fraction.denominator_scaled_pos (mantissa : Nat) (exponent : Int) :
    0 < (Fraction.scaled 2 mantissa exponent).denominator := by
  cases exponent with
  | ofNat => exact Nat.one_pos
  | negSucc e => exact Nat.pow_pos Nat.two_pos

theorem Binary.value_eq_scaled (b : Binary) :
    b.value = (Fraction.scaled 2 b.mantissa b.exponent).numerator /
      (Fraction.scaled 2 b.mantissa b.exponent).denominator := by
  obtain ⟨mantissa, exponent⟩ := b
  cases exponent with
  | ofNat e => simp [value, Fraction.scaled]
  | negSucc e => simp [value, Fraction.scaled, zpow_negSucc, div_eq_mul_inv]

theorem div_eq_intCast_iff (numerator : Nat) {denominator : Nat} (positive : 0 < denominator)
    (n : Int) :
    (numerator : ℚ) / denominator = n ↔
      numerator % denominator = 0 ∧ ((numerator / denominator : Nat) : Int) = n := by
  have nonzero : (denominator : ℚ) ≠ 0 := by exact_mod_cast positive.ne'
  rw [div_eq_iff nonzero]
  constructor
  · intro product
    have whole : (numerator : Int) = n * denominator := by exact_mod_cast product
    have divides : (denominator : Int) ∣ numerator := ⟨n, by rw [whole, mul_comm]⟩
    refine ⟨Nat.mod_eq_zero_of_dvd (by exact_mod_cast divides), ?_⟩
    rw [Int.natCast_ediv, whole, Int.mul_ediv_cancel n (by exact_mod_cast positive.ne')]
  · rintro ⟨even, rfl⟩
    have product := Nat.div_add_mod' numerator denominator
    rw [even, add_zero] at product
    exact_mod_cast product.symm

/-- A double is a whole number just when the fraction that it stands for comes out even. -/
theorem wholeOfBits?_eq_some_iff {bits : Nat} {n : Int} :
    wholeOfBits? bits = some n ↔ value? bits = some (n : ℚ) := by
  have even := div_eq_intCast_iff
    (Fraction.scaled 2 (binaryOfBits bits).mantissa (binaryOfBits bits).exponent).numerator
    (Fraction.denominator_scaled_pos (binaryOfBits bits).mantissa (binaryOfBits bits).exponent)
  simp only [← Binary.value_eq_scaled] at even
  cases finite : isFiniteBits bits with
  | false => simp [wholeOfBits?, value?, finite]
  | true =>
    have floor (a : Fraction) : a.floorAt 0 = a.numerator / a.denominator := by
      simp [Fraction.floorAt]
    simp only [wholeOfBits?, value?, finite, Bool.true_and, decide_eq_true_eq, if_true,
      wholePartOfBits, signedBy, floor, Option.ite_none_right_eq_some, Option.some.injEq]
    split
    · rw [neg_eq_iff_eq_neg, neg_one_mul, neg_eq_iff_eq_neg, ← Int.cast_neg, even]
    · rw [one_mul, even]

/-- The mantissa has 53 digits at most, and fewer only at the least exponent. -/
structure Binary.Normal (b : Binary) : Prop where
  short : b.mantissa < 2 ^ 53
  least : -1074 ≤ b.exponent
  full : b.exponent = -1074 ∨ 2 ^ 52 ≤ b.mantissa

theorem normal_binaryOfBits (bits : Nat) : (binaryOfBits bits).Normal := by
  have fraction : bits % Nat.pow 2 52 < Nat.pow 2 52 := Nat.mod_lt _ (by decide)
  simp only [Nat.pow_eq] at fraction
  simp only [binaryOfBits, Nat.pow_eq]
  split
  · exact ⟨by dsimp only; omega, le_rfl, .inl rfl⟩
  · exact ⟨by dsimp only; omega, by dsimp only; omega, .inr (by dsimp only; omega)⟩

namespace Binary

variable {b c : Binary}

theorem value_nonneg (b : Binary) : 0 ≤ b.value :=
  mul_nonneg (Nat.cast_nonneg _) (zpow_nonneg zero_le_two _)

/-- A larger exponent would take more digits than there are. -/
theorem Normal.exponent_le (short : b.Normal) (full : c.Normal) (same : b.value = c.value) :
    c.exponent ≤ b.exponent := by
  by_contra larger
  obtain ⟨d, apart⟩ : ∃ d : Nat, c.exponent = b.exponent + (d + 1 : Nat) :=
    ⟨(c.exponent - b.exponent - 1).toNat, by omega⟩
  have nonzero : (2 : ℚ) ^ b.exponent ≠ 0 := zpow_ne_zero _ two_ne_zero
  have shifted : (b.mantissa : ℚ) = c.mantissa * 2 ^ (d + 1) := by
    refine mul_right_cancel₀ nonzero ?_
    rw [mul_assoc, ← zpow_natCast, mul_comm ((2 : ℚ) ^ _), ← zpow_add₀ two_ne_zero, ← apart]
    exact same
  have digits : b.mantissa = c.mantissa * 2 ^ (d + 1) := by exact_mod_cast shifted
  have many : 2 ^ 52 ≤ c.mantissa := full.full.resolve_left (by have := short.least; omega)
  have double : c.mantissa * 2 ≤ c.mantissa * 2 ^ (d + 1) :=
    Nat.mul_le_mul_left _ (Nat.le_self_pow (by omega) 2)
  have few := short.short
  omega

/-- A number is written in one way. -/
theorem Normal.eq_of_value_eq (one : b.Normal) (other : c.Normal) (same : b.value = c.value) :
    b = c := by
  have exponents := le_antisymm (other.exponent_le one same.symm) (one.exponent_le other same)
  obtain ⟨m, e⟩ := b
  obtain ⟨n, f⟩ := c
  obtain rfl : e = f := exponents
  have mantissas := mul_right_cancel₀ (zpow_ne_zero _ (two_ne_zero : (2 : ℚ) ≠ 0)) same
  rw [show m = n by exact_mod_cast mantissas]

end Binary

/-- The bits of a double are its sign, its exponent and its fraction. -/
theorem bits_eq_of_binaryOfBits_eq {bits other : Nat} (short : bits < 2 ^ 64)
    (short' : other < 2 ^ 64) (signs : Nat.pow 2 63 ≤ bits ↔ Nat.pow 2 63 ≤ other)
    (same : binaryOfBits bits = binaryOfBits other) : bits = other := by
  simp only [binaryOfBits, Nat.pow_eq] at same signs
  split at same <;> split at same <;> simp only [Binary.mk.injEq] at same <;> omega

/-- A number other than zero has one double. -/
theorem bits_eq_of_value? {bits other : Nat} (short : bits < 2 ^ 64) (short' : other < 2 ^ 64)
    {q : ℚ} (value : value? bits = some q) (value' : value? other = some q) (nonzero : q ≠ 0) :
    bits = other := by
  rw [value?, Option.ite_none_right_eq_some, Option.some.injEq] at value value'
  have size := (binaryOfBits bits).value_nonneg
  have size' := (binaryOfBits other).value_nonneg
  -- Sizes are not negative, so the sign is that of the number, and the sizes are the same.
  have same : (Nat.pow 2 63 ≤ bits ↔ Nat.pow 2 63 ≤ other) ∧
      (binaryOfBits bits).value = (binaryOfBits other).value := by
    by_cases minus : Nat.pow 2 63 ≤ bits <;> by_cases minus' : Nat.pow 2 63 ≤ other
    · simp only [minus, minus', if_true] at value value'
      exact ⟨iff_of_true minus minus', by linarith [value.2, value'.2]⟩
    · simp only [minus, minus', if_true, if_false] at value value'
      exact absurd (by linarith [value.2, value'.2]) nonzero
    · simp only [minus, minus', if_true, if_false] at value value'
      exact absurd (by linarith [value.2, value'.2]) nonzero
    · simp only [minus, minus', if_false] at value value'
      exact ⟨iff_of_false minus minus', by linarith [value.2, value'.2]⟩
  exact bits_eq_of_binaryOfBits_eq short short' same.1
    ((normal_binaryOfBits bits).eq_of_value_eq (normal_binaryOfBits other) same.2)

end Decimal

/-! ## Names -/

/-- The number that a value is, if it is one. -/
def Value.number? : Value → Option ℚ
  | .bool b => some (if b then 1 else 0)
  | .int n => some n
  | .float x => Decimal.value? x.toBits.toNat
  | _ => none

/-- Two values name the same thing.  Collections name nothing, not even the same as themselves. -/
inductive SameName : Value → Value → Prop where
  | absent : SameName .null .null
  | text (s : String) : SameName (.text s) (.text s)
  /-- Numbers are the same if they are equal, of whatever kind they are. -/
  | number {v w : Value} {q : ℚ} (first : v.number? = some q) (second : w.number? = some q) :
      SameName v w
  /-- This is for infinities and for what is no number. -/
  | double {x y : Float} (bits : x.toBits = y.toBits) : SameName (.float x) (.float y)
  | stamp (s : Stamp) : SameName (.stamp s) (.stamp s)
  | instant {s t : Stamp} {point : Int} (first : s.instant? = some point)
      (second : t.instant? = some point) : SameName (.stamp s) (.stamp t)

theorem sameName_text_iff {s t : String} : SameName (.text s) (.text t) ↔ s = t := by
  constructor
  · intro same
    cases same with
    | text => rfl
    | number first => cases first
  · rintro rfl
    exact .text s

theorem SameName.right {v w : Value} (same : SameName v w) : SameName w w := by
  cases same with
  | absent => exact .absent
  | text s => exact .text s
  | number _ second => exact .number second second
  | double => exact .double rfl
  | stamp s => exact .stamp s
  | instant => exact .stamp _

namespace Key

/-- What a key is if it is known by a name. -/
inductive Named : Key → KeyName → Prop where
  | null : Named .null .absent
  | text (s : String) : Named (.text s) (.text s)
  | whole {k : Key} {n : Int} (number : k.toValue.number? = some (n : ℚ)) : Named k (.whole n)
  | decimal {x : Float} {bits : UInt64} (same : x.toBits = bits) : Named (.float x) (.decimal bits)
  | stamp (s : Stamp) : Named (.stamp s) (.stamp s)
  | instant {s : Stamp} {point : Int} (names : s.instant? = some point) :
      Named (.stamp s) (.instant point)

variable {k l : Key}

theorem named_name (k : Key) : Named k k.name := by
  cases k with
  | null => exact .null
  | text s => exact .text s
  | bool b => exact .whole (by cases b <;> simp [toValue, Value.number?])
  | int n => exact .whole rfl
  | float x =>
    rw [name]
    cases whole : Decimal.wholeOfBits? x.toBits.toNat with
    | none => exact .decimal rfl
    | some n => exact .whole (Decimal.wholeOfBits?_eq_some_iff.mp whole)
  | stamp s =>
    rw [name]
    cases names : s.instant? with
    | none => exact .stamp s
    | some point => exact .instant names

theorem name_of_whole {n : Int} (number : k.toValue.number? = some (n : ℚ)) :
    k.name = .whole n := by
  cases k with
  | bool b =>
    have same : (if b then 1 else 0 : ℚ) = n := Option.some.inj number
    rw [name, KeyName.whole.injEq]
    exact_mod_cast same
  | int m => rw [name, Int.cast_injective (Option.some.inj number)]
  | float x =>
    rw [name, Decimal.wholeOfBits?_eq_some_iff.mpr number]
    rfl
  | null | text | stamp => cases number

/-- A number that is not a whole one is a double. -/
theorem exists_float_of_number? {q : ℚ} (number : k.toValue.number? = some q)
    (broken : ∀ n : Int, (n : ℚ) ≠ q) :
    ∃ x, k = .float x ∧ Decimal.value? x.toBits.toNat = some q := by
  cases k with
  | float x => exact ⟨x, rfl, number⟩
  | bool b =>
    refine absurd (Option.some.inj number) ?_
    cases b
    · exact_mod_cast broken 0
    · exact_mod_cast broken 1
  | int n => exact absurd (Option.some.inj number) (broken n)
  | null | text | stamp => cases number

theorem name_eq_of_number? {q : ℚ} (first : k.toValue.number? = some q)
    (second : l.toValue.number? = some q) : k.name = l.name := by
  by_cases whole : ∃ n : Int, (n : ℚ) = q
  · obtain ⟨n, rfl⟩ := whole
    rw [name_of_whole first, name_of_whole second]
  · have broken : ∀ n : Int, (n : ℚ) ≠ q := fun n same => whole ⟨n, same⟩
    obtain ⟨x, rfl, value⟩ := exists_float_of_number? first broken
    obtain ⟨y, rfl, value'⟩ := exists_float_of_number? second broken
    have bits := Decimal.bits_eq_of_value? x.toBits.toNat_lt y.toBits.toNat_lt value value'
      fun zero => broken 0 (by exact_mod_cast zero.symm)
    rw [name, name, UInt64.toNat_inj.mp bits]

theorem Named.sameName {n : KeyName} (one : Named k n) (other : Named l n) :
    SameName k.toValue l.toValue := by
  cases one with
  | null =>
    cases other
    exact .absent
  | text s =>
    cases other
    exact .text s
  | whole number =>
    cases other with
    | whole number' => exact .number number number'
  | decimal same =>
    cases other with
    | decimal same' => exact .double (same.trans same'.symm)
  | stamp s =>
    cases other
    exact .stamp s
  | instant names =>
    cases other with
    | instant names' => exact .instant names names'

theorem toValue_inj (same : k.toValue = l.toValue) : k = l := by
  cases k <;> cases l <;> simp_all [toValue]

/-- Keys are known by the same name just when they name the same thing. -/
theorem name_eq_iff : k.name = l.name ↔ SameName k.toValue l.toValue := by
  constructor
  · intro same
    exact (named_name k).sameName (same ▸ named_name l)
  · intro same
    generalize first : k.toValue = v at same
    generalize second : l.toValue = w at same
    cases same with
    | absent | text | stamp => rw [toValue_inj (first.trans second.symm)]
    | number number number' => exact name_eq_of_number? (first ▸ number) (second ▸ number')
    | @double x y bits =>
      cases toValue_inj (l := .float x) first
      cases toValue_inj (l := .float y) second
      rw [name, name, bits]
    | @instant s t point here there =>
      cases toValue_inj (l := .stamp s) first
      cases toValue_inj (l := .stamp t) second
      simp only [name, here, there, Option.map_some, Option.getD_some]

theorem toValue_of_toKey {v : Value} (isKey : v.toKey = .ok k) : k.toValue = v := by
  cases v <;> cases isKey <;> rfl

/-- A collection names nothing, and is no key. -/
theorem exists_toKey_iff {v : Value} : (∃ k, v.toKey = .ok k) ↔ SameName v v := by
  constructor
  · rintro ⟨k, isKey⟩
    rw [← toValue_of_toKey isKey]
    exact name_eq_iff.mp rfl
  · intro same
    cases v with
    | list | mapping => cases same; contradiction
    | null | bool | int | float | text | stamp => exact ⟨_, rfl⟩

end Key

/-! ## Clients -/

namespace Directory

variable {tenant client tenant' client' : Value} {account account' : Account}

theorem accountOf_eq_ok (known : accountOf tenant client = .ok account) :
    ∃ k l, tenant.toKey = .ok k ∧ client.toKey = .ok l ∧ account = ⟨k.name, l.name⟩ := by
  rw [accountOf] at known
  cases first : tenant.toKey with
  | error => simp [first, bind, Except.bind] at known
  | ok k =>
    cases second : client.toKey with
    | error => simp [first, second, bind, Except.bind] at known
    | ok l =>
      simp only [first, second, bind, Except.bind, pure, Except.pure, Except.ok.injEq] at known
      exact ⟨k, l, rfl, rfl, known.symm⟩

theorem exists_accountOf_iff :
    (∃ account, accountOf tenant client = .ok account) ↔
      SameName tenant tenant ∧ SameName client client := by
  rw [← Key.exists_toKey_iff, ← Key.exists_toKey_iff]
  constructor
  · rintro ⟨account, known⟩
    obtain ⟨k, l, first, second, -⟩ := accountOf_eq_ok known
    exact ⟨⟨k, first⟩, l, second⟩
  · rintro ⟨⟨k, first⟩, l, second⟩
    exact ⟨⟨k.name, l.name⟩, by rw [accountOf, first, second]; rfl⟩

/-- Tokens are kept apart unless both the tenants and the clients are the same. -/
theorem account_eq_iff (known : accountOf tenant client = .ok account)
    (known' : accountOf tenant' client' = .ok account') :
    account = account' ↔ SameName tenant tenant' ∧ SameName client client' := by
  obtain ⟨k, l, first, second, rfl⟩ := accountOf_eq_ok known
  obtain ⟨k', l', first', second', rfl⟩ := accountOf_eq_ok known'
  rw [Account.mk.injEq, Key.name_eq_iff, Key.name_eq_iff, Key.toValue_of_toKey first,
    Key.toValue_of_toKey second, Key.toValue_of_toKey first', Key.toValue_of_toKey second']

theorem accountOf_of_sameName (known : accountOf tenant client = .ok account)
    (tenants : SameName tenant tenant') (clients : SameName client client') :
    accountOf tenant' client' = .ok account := by
  obtain ⟨other, known'⟩ := exists_accountOf_iff.mpr ⟨tenants.right, clients.right⟩
  rw [known', (account_eq_iff known known').mpr ⟨tenants, clients⟩]

end Directory

end AccessSync
