import DeploymentManager.Strconv

/-!
`getNextCount`, which computes the value written to the `deployment-manager/notifications`
annotation on every bump.

The value read is whatever `Atoi` accepts, `0` otherwise; the value written is `Itoa` of the next
`int`. Since `Atoi` reads back everything `Itoa` prints, every written value is accepted by the next
bump, and it always differs from the value read. The count moves up by one at each bump, except from
the largest `int`, where Go's 64-bit addition wraps to the smallest.
-/

namespace DeploymentManager.Counter

open DeploymentManager.Strconv

/-- Addition on Go's `int`, 64 bits wide, wraps around. -/
def wrapInt (x : Int) : Int := x.bmod (2 ^ 64)

def getNextCount (value : String) : String :=
  let count : Int :=
    if value ≠ "" then
      match atoi value with
      | .ok count => count
      | .error _ => 0
    else 0
  itoa (wrapInt (count + 1))

/-- The count an annotation value stands for: what `Atoi` reads from it, or `0`. -/
def readCount (value : String) : Int :=
  match atoi value with
  | .ok c => c
  | .error _ => 0

example : getNextCount "" = "1" := by decide
example : getNextCount "7" = "8" := by decide
example : getNextCount "not-a-number" = "1" := by decide

lemma wrapInt_inRange (x : Int) : InRange (wrapInt x) :=
  ⟨by have := @Int.le_bmod x (2 ^ 64) (by norm_num); unfold wrapInt; omega,
   by have := @Int.bmod_lt x (2 ^ 64) (by norm_num); unfold wrapInt; omega⟩

lemma wrapInt_of_inRange {x : Int} (h : InRange x) : wrapInt x = x := by
  obtain ⟨h1, h2⟩ := h
  rw [wrapInt, Int.bmod_def]
  split_ifs <;> omega

/-- No `int` is its own successor: the wrapped sum still moves by one modulo `2 ^ 64`. -/
lemma wrapInt_succ_ne (x : Int) : wrapInt (x + 1) ≠ x := by
  intro h
  have := congrArg (· % ((2 ^ 64 : Nat) : Int)) h
  simp only [wrapInt, Int.bmod_emod] at this
  omega

lemma readCount_inRange (value : String) : InRange (readCount value) := by
  unfold readCount
  split
  · exact atoi_inRange ‹_›
  · decide

lemma readCount_of_atoi {value : String} {c : Int} (h : atoi value = .ok c) :
    readCount value = c := by
  simp [readCount, h]

theorem getNextCount_eq (value : String) :
    getNextCount value = itoa (wrapInt (readCount value + 1)) := by
  by_cases h : value = ""
  · subst h; rfl
  · simp only [getNextCount, ne_eq, h, not_false_eq_true, if_true, readCount]

theorem atoi_getNextCount (value : String) :
    atoi (getNextCount value) = .ok (wrapInt (readCount value + 1)) := by
  rw [getNextCount_eq, atoi_itoa (wrapInt_inRange _)]

lemma readCount_getNextCount (value : String) :
    readCount (getNextCount value) = wrapInt (readCount value + 1) :=
  readCount_of_atoi (atoi_getNextCount value)

theorem readCount_getNextCount_of_lt {value : String} (h : readCount value < 2 ^ 63 - 1) :
    readCount (getNextCount value) = readCount value + 1 := by
  have := (readCount_inRange value).1
  rw [readCount_getNextCount, wrapInt_of_inRange ⟨by omega, by omega⟩]

/-- **Bumps count**: `n` bumps add `n` to the count, as long as it stays below `2 ^ 63`. -/
theorem readCount_iterate_getNextCount {value : String} {n : Nat}
    (h : readCount value + n < 2 ^ 63) :
    readCount (getNextCount^[n] value) = readCount value + n := by
  induction n with
  | zero => simp
  | succ n ih =>
    rw [Function.iterate_succ_apply', readCount_getNextCount_of_lt (by rw [ih (by omega)]; omega),
      ih (by omega)]
    push_cast; ring

/-- At the largest `int` the count wraps: `Atoi` reads `2 ^ 63 - 1` from the value, and
`-2 ^ 63` from the value `getNextCount` writes. -/
theorem getNextCount_wraps_at_maxInt :
    atoi "9223372036854775807" = .ok 9223372036854775807 ∧
      getNextCount "9223372036854775807" = "-9223372036854775808" ∧
      atoi (getNextCount "9223372036854775807") = .ok (-9223372036854775808) :=
  ⟨rfl, by decide, rfl⟩

/-- **Every bump is read back and changes the value**: whatever the annotation holds, `Atoi`
accepts the value `getNextCount` writes, and that value differs from the one read. -/
theorem getNextCount_parses_and_changes (value : String) :
    (∃ c, atoi (getNextCount value) = .ok c) ∧ getNextCount value ≠ value := by
  refine ⟨⟨_, atoi_getNextCount value⟩, fun h => ?_⟩
  have hread := readCount_getNextCount value
  rw [h] at hread
  exact wrapInt_succ_ne _ hread.symm

/-- **The values of the counter**: `Atoi` returns exactly the values of a 64-bit `int`, reads each
of them back from the decimal `Itoa` prints, and so reads from the value `getNextCount` writes over
an annotation of count `i` the `int` after `i`, wrapped. -/
theorem atoi_range (i : Int) :
    ((∃ s, atoi s = .ok i) ↔ InRange i) ∧ (InRange i → atoi (itoa i) = .ok i) ∧
      ∀ value, readCount value = i → atoi (getNextCount value) = .ok (wrapInt (i + 1)) :=
  ⟨⟨fun ⟨_, h⟩ => atoi_inRange h, fun h => ⟨itoa i, atoi_itoa h⟩⟩, atoi_itoa,
    fun value h => h ▸ atoi_getNextCount value⟩

end DeploymentManager.Counter
