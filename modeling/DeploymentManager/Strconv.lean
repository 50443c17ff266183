import Mathlib.Data.Nat.Digits
import Mathlib.Tactic.IntervalCases

/-!
The two conversions of Go's `strconv` that the notification counter goes through: `Atoi`, which
is `ParseInt(s, 10, 0)` on a 64-bit `int`, and `Itoa`, which is `FormatInt(int64(i), 10)`.

`Atoi` also has a fast path for strings shorter than 19 bytes; it accepts the same strings with
the same values, since 18 digits cannot leave the range of `int64`, and is not modelled apart.
A Go string is read here as its list of characters: a byte outside `'0'..'9'` is a syntax error
in base 10, and so is every byte of a multi-byte character.

The main facts are that `Atoi` only returns values of `int64`, and that it reads every such value
back from `Itoa`.
-/

namespace DeploymentManager.Strconv

/-- `err.Err` of the `*NumError` the parsers return. -/
inductive NumError
  | errSyntax
  | errRange
  deriving DecidableEq, Repr

/-- `maxUint64`, the `maxVal` of `ParseUint` for a bit size of 64. -/
def maxUint64 : Nat := 2 ^ 64 - 1

/-- The `cutoff` of `ParseUint` for base 10: the smallest `n` with `n * 10 > maxUint64`. -/
def cutoff : Nat := maxUint64 / 10 + 1

/-- The digit loop of `ParseUint(s, 10, 64)` from the value `n` of the bytes read so far.
`n * 10 + d` is a `uint64` sum, so it is taken modulo `2 ^ 64` and compared with `n * 10`. -/
def parseDigits (n : Nat) : List Char → Except NumError Nat
  | [] => .ok n
  | c :: s =>
    if '0' ≤ c ∧ c ≤ '9' then
      if cutoff ≤ n then .error .errRange
      else
        let n1 := (n * 10 + (c.toNat - '0'.toNat)) % 2 ^ 64
        if n1 < n * 10 ∨ maxUint64 < n1 then .error .errRange
        else parseDigits n1 s
    else .error .errSyntax

def parseUint : List Char → Except NumError Nat
  | [] => .error .errSyntax
  | c :: s => parseDigits 0 (c :: s)

/-- The range check of `ParseInt(s, 10, 64)` after the sign is picked off. A range error of
`ParseUint` comes with `maxVal`, which fails the check, so it stays a range error. -/
def signed (neg : Bool) (s : List Char) : Except NumError Int :=
  match parseUint s with
  | .error e => .error e
  | .ok un =>
    if !neg ∧ 2 ^ 63 ≤ un then .error .errRange
    else if neg ∧ 2 ^ 63 < un then .error .errRange
    else .ok (if neg then -(un : Int) else un)

/-- `ParseInt(s, 10, 64)`: an optional leading sign, then the digits. -/
def parseInt : List Char → Except NumError Int
  | [] => .error .errSyntax
  | c :: s =>
    if c = '+' then signed false s
    else if c = '-' then signed true s
    else signed false (c :: s)

def atoi (s : String) : Except NumError Int := parseInt s.toList

/-- `strconv.Itoa`: a minus sign for a negative value, then the decimal digits of its
magnitude, as `formatBits` writes them. -/
def itoa (i : Int) : String :=
  ⟨if i < 0 then '-' :: Nat.toDigits 10 i.natAbs else Nat.toDigits 10 i.natAbs⟩

def InRange (i : Int) : Prop := -2 ^ 63 ≤ i ∧ i < 2 ^ 63

instance (i : Int) : Decidable (InRange i) := inferInstanceAs (Decidable (_ ∧ _))

example : atoi "+0012" = .ok 12 := rfl
example : atoi "9223372036854775808" = .error .errRange := rfl

/-! ### Decimal digits -/

lemma digitChar_spec {d : Nat} (h : d < 10) :
    '0' ≤ Nat.digitChar d ∧ Nat.digitChar d ≤ '9' ∧ (Nat.digitChar d).toNat = d + 48 := by
  interval_cases d <;> decide

lemma toDigitsCore_append (f n : Nat) (ds : List Char) :
    Nat.toDigitsCore 10 f n ds = Nat.toDigitsCore 10 f n [] ++ ds := by
  induction f generalizing n ds with
  | zero => rfl
  | succ f ih =>
    simp only [Nat.toDigitsCore]
    split
    · rfl
    · rw [ih, ih _ [_]]; simp

lemma toDigitsCore_fuel {f g n : Nat} (hf : n < f) (hg : n < g) (ds : List Char) :
    Nat.toDigitsCore 10 f n ds = Nat.toDigitsCore 10 g n ds := by
  induction f generalizing g n ds with
  | zero => omega
  | succ f ih =>
    obtain ⟨g, rfl⟩ : ∃ g', g = g' + 1 := ⟨g - 1, by omega⟩
    simp only [Nat.toDigitsCore]
    split
    · rfl
    · exact ih (by omega) (by omega) _

lemma toDigits_of_lt {n : Nat} (h : n < 10) : Nat.toDigits 10 n = [Nat.digitChar n] := by
  simp [Nat.toDigits, Nat.toDigitsCore, Nat.div_eq_of_lt h, Nat.mod_eq_of_lt h]

lemma toDigits_of_ge {n : Nat} (h : 10 ≤ n) :
    Nat.toDigits 10 n = Nat.toDigits 10 (n / 10) ++ [Nat.digitChar (n % 10)] := by
  rw [Nat.toDigits, Nat.toDigitsCore, if_neg (by omega), toDigitsCore_append,
    @toDigitsCore_fuel _ (n / 10 + 1) _ (by omega) (by omega)]
  rfl

lemma mem_toDigits {n : Nat} {c : Char} (h : c ∈ Nat.toDigits 10 n) : '0' ≤ c ∧ c ≤ '9' := by
  induction n using Nat.strong_induction_on with
  | _ n ih =>
    rcases Nat.lt_or_ge n 10 with hn | hn
    · rw [toDigits_of_lt hn, List.mem_singleton] at h
      exact h ▸ ⟨(digitChar_spec hn).1, (digitChar_spec hn).2.1⟩
    · rw [toDigits_of_ge hn, List.mem_append, List.mem_singleton] at h
      rcases h with h | rfl
      · exact ih _ (by omega) h
      · have := digitChar_spec (Nat.mod_lt n (by omega : 10 > 0))
        exact ⟨this.1, this.2.1⟩

lemma toDigits_ne_nil (n : Nat) : Nat.toDigits 10 n ≠ [] := by
  rcases Nat.lt_or_ge n 10 with hn | hn
  · simp [toDigits_of_lt hn]
  · simp [toDigits_of_ge hn]

/-! ### Reading digits back -/

lemma parseDigits_append (n : Nat) (l₁ l₂ : List Char) :
    parseDigits n (l₁ ++ l₂) = (parseDigits n l₁).bind (parseDigits · l₂) := by
  induction l₁ generalizing n with
  | nil => rfl
  | cons c s ih =>
    simp only [List.cons_append, parseDigits]
    split_ifs <;> simp_all [Except.bind]

lemma parseDigits_digitChar {n d : Nat} (hd : d < 10) (h : n * 10 + d ≤ maxUint64)
    (s : List Char) : parseDigits n (Nat.digitChar d :: s) = parseDigits (n * 10 + d) s := by
  obtain ⟨h0, h9, hv⟩ := digitChar_spec hd
  have hc : ¬ cutoff ≤ n := by simp only [cutoff, maxUint64] at h ⊢; omega
  have hsub : (Nat.digitChar d).toNat - '0'.toNat = d := by rw [hv]; rfl
  have hlt : n * 10 + d < 2 ^ 64 := by simp only [maxUint64] at h; omega
  simp only [parseDigits, h0, h9, and_self, if_true, hc, if_false, hsub, Nat.mod_eq_of_lt hlt]
  rw [if_neg (by omega)]

theorem parseDigits_toDigits {m : Nat} (hm : m ≤ maxUint64) :
    parseDigits 0 (Nat.toDigits 10 m) = .ok m := by
  induction m using Nat.strong_induction_on with
  | _ m ih =>
    rcases Nat.lt_or_ge m 10 with h | h
    · rw [toDigits_of_lt h, parseDigits_digitChar h (by omega)]
      simp [parseDigits]
    · rw [toDigits_of_ge h, parseDigits_append, ih _ (by omega) (by omega)]
      show parseDigits (m / 10) [Nat.digitChar (m % 10)] = .ok m
      rw [parseDigits_digitChar (Nat.mod_lt m (by omega)) (by omega), Nat.div_add_mod']
      rfl

lemma parseUint_toDigits {m : Nat} (hm : m ≤ maxUint64) :
    parseUint (Nat.toDigits 10 m) = .ok m := by
  obtain ⟨c, s, hcs⟩ := List.exists_cons_of_ne_nil (toDigits_ne_nil m)
  rw [hcs, parseUint, ← hcs, parseDigits_toDigits hm]

/-! ### `Atoi` against `Itoa` -/

lemma signed_inRange {neg : Bool} {s : List Char} {i : Int} (h : signed neg s = .ok i) :
    InRange i := by
  unfold signed at h
  split at h
  · cases h
  · split_ifs at h <;> cases h <;> simp_all [InRange] <;> omega

theorem atoi_inRange {s : String} {i : Int} (h : atoi s = .ok i) : InRange i := by
  unfold atoi parseInt at h
  split at h
  · cases h
  · split_ifs at h <;> exact signed_inRange h

lemma parseInt_digits {l : List Char} (hl : ∀ c ∈ l, '0' ≤ c ∧ c ≤ '9') :
    parseInt l = signed false l := by
  cases l with
  | nil => rfl
  | cons c s =>
    have h := hl c (List.mem_cons_self c s)
    have hp : c ≠ '+' := fun e => absurd (e ▸ h.1) (by decide)
    have hm : c ≠ '-' := fun e => absurd (e ▸ h.1) (by decide)
    simp [parseInt, hp, hm]

lemma signed_false {s : List Char} {un : Nat} (h : parseUint s = .ok un) (hun : un < 2 ^ 63) :
    signed false s = .ok un := by
  simp [signed, h]; omega

lemma signed_true {s : List Char} {un : Nat} (h : parseUint s = .ok un) (hun : un ≤ 2 ^ 63) :
    signed true s = .ok (-un) := by
  simp [signed, h]; omega

/-- **Round trip**: `Atoi` reads back every value of a 64-bit `int` that `Itoa` prints. -/
theorem atoi_itoa {i : Int} (h : InRange i) : atoi (itoa i) = .ok i := by
  obtain ⟨hlo, hhi⟩ := h
  have hle : i.natAbs ≤ maxUint64 := by simp only [maxUint64]; omega
  unfold atoi itoa
  split_ifs with hneg
  · rw [String.toList, parseInt, if_neg (by decide), if_pos rfl,
      signed_true (parseUint_toDigits hle) (by omega)]
    congr 1; omega
  · rw [String.toList, parseInt_digits (fun _ => mem_toDigits),
      signed_false (parseUint_toDigits hle) (by omega)]
    congr 1; omega

end DeploymentManager.Strconv
