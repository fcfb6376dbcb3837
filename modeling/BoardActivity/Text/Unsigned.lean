/-!
# Unsigned decimal integers

Reading a bounded natural number from text: an optional plus sign, then ASCII digits and nothing
else. Leading zeros are allowed. A number that does not fit below the bound is refused.
-/

namespace BoardActivity.Text

def digit? (c : Char) : Option Nat :=
  if '0' ≤ c ∧ c ≤ '9' then some (c.toNat - '0'.toNat) else none

/-- The value of an ASCII hexadecimal digit of either case. -/
def hexDigit? (c : Char) : Option Nat :=
  if '0' ≤ c ∧ c ≤ '9' then some (c.toNat - '0'.toNat)
  else if 'a' ≤ c ∧ c ≤ 'f' then some (c.toNat - 'a'.toNat + 10)
  else if 'A' ≤ c ∧ c ≤ 'F' then some (c.toNat - 'A'.toNat + 10)
  else none

/-- The number that the digits `cs` continue from the value `n`, in the base given. -/
def continueNumber (base : Nat) (digitOf : Char → Option Nat) (n : Nat) :
    List Char → Option Nat
  | [] => some n
  | c :: cs =>
    match digitOf c with
    | some d => continueNumber base digitOf (n * base + d) cs
    | none => none

/-- A nonempty run of ASCII digits as a number. -/
def decimal? : List Char → Option Nat
  | [] => none
  | cs => continueNumber 10 digit? 0 cs

/-- Reads a natural number below `bound`, with an optional plus sign in front. -/
def readUnsigned? (bound : Nat) (s : String) : Option Nat :=
  let digits := match s.toList with
    | '+' :: cs => cs
    | cs => cs
  match decimal? digits with
  | some n => if n < bound then some n else none
  | none => none

/-- The decimal digits of `n`, padded with zeros on the left to at least `width`. -/
def paddedDecimal (width n : Nat) : String :=
  let ds := Nat.toDigits 10 n
  String.ofList (List.replicate (width - ds.length) '0' ++ ds)

theorem continueNumber_append (base : Nat) (digitOf : Char → Option Nat) (n : Nat)
    (cs ds : List Char) : continueNumber base digitOf n (cs ++ ds) =
      (continueNumber base digitOf n cs).bind fun m => continueNumber base digitOf m ds := by
  induction cs generalizing n with
  | nil => rfl
  | cons c cs ih =>
    simp only [List.cons_append, continueNumber]
    cases digitOf c with
    | none => rfl
    | some d => exact ih _

theorem hexDigit?_digitChar : ∀ {d : Nat}, d < 16 → hexDigit? d.digitChar = some d := by
  decide

theorem digit?_digitChar : ∀ {d : Nat}, d < 10 → digit? d.digitChar = some d := by
  decide

/-- The digits of a number are read back, whatever stands before them. -/
theorem continueNumber_toDigits {base : Nat} {digitOf : Char → Option Nat} (hbase : 1 < base)
    (hdigit : ∀ {d : Nat}, d < base → digitOf d.digitChar = some d) (n m : Nat) :
    continueNumber base digitOf m (Nat.toDigits base n) =
      some (m * Nat.pow base (Nat.toDigits base n).length + n) := by
  simp only [Nat.pow_eq]
  induction n using Nat.strongRecOn with
  | _ n ih =>
    rw [Nat.toDigits_eq_if hbase]
    split
    next hn => simp [continueNumber, hdigit hn]
    next hn =>
      have hd : n % base < base := Nat.mod_lt n (Nat.lt_of_succ_lt hbase)
      have hpos : 0 < n := Nat.lt_of_lt_of_le (Nat.lt_of_succ_lt hbase) (Nat.not_lt.1 hn)
      rw [continueNumber_append, ih (n / base) (Nat.div_lt_self hpos hbase)]
      simp only [Option.bind_some, continueNumber, hdigit hd, List.length_append,
        List.length_singleton, Nat.pow_succ, Option.some.injEq]
      rw [Nat.add_mul, Nat.mul_assoc, Nat.add_assoc, Nat.div_add_mod']

/-- Numbers are written with digits of the base. -/
theorem digit_of_mem_toDigits {base : Nat} (hbase : 1 < base) {n : Nat} {c : Char}
    (hc : c ∈ Nat.toDigits base n) : ∃ d, d < base ∧ c = d.digitChar := by
  induction n using Nat.strongRecOn with
  | _ n ih =>
    rw [Nat.toDigits_eq_if hbase] at hc
    split at hc
    next hn => exact ⟨n, hn, List.mem_singleton.1 hc⟩
    next hn =>
      have hpos : 0 < n := Nat.lt_of_lt_of_le (Nat.lt_of_succ_lt hbase) (Nat.not_lt.1 hn)
      rcases List.mem_append.1 hc with hc | hc
      · exact ih (n / base) (Nat.div_lt_self hpos hbase) hc
      · exact ⟨n % base, Nat.mod_lt n (Nat.lt_of_succ_lt hbase), List.mem_singleton.1 hc⟩

theorem continueNumber_zeros {base : Nat} {digitOf : Char → Option Nat}
    (hzero : digitOf '0' = some 0) (n k : Nat) :
    continueNumber base digitOf n (List.replicate k '0') = some (n * Nat.pow base k) := by
  simp only [Nat.pow_eq]
  induction k generalizing n with
  | zero => simp [continueNumber]
  | succ k ih =>
    simp only [List.replicate_succ, continueNumber, hzero, ih, Nat.pow_succ, Option.some.injEq]
    grind

theorem digit?_lt {c : Char} {d : Nat} (h : digit? c = some d) : d < 10 := by
  unfold digit? at h
  split at h
  next hc =>
    have hle : c.toNat ≤ '9'.toNat := hc.2
    have hlast : '9'.toNat = 57 := rfl
    have hfirst : '0'.toNat = 48 := rfl
    cases h
    omega
  next => cases h

theorem hexDigit?_lt {c : Char} {d : Nat} (h : hexDigit? c = some d) : d < 16 := by
  unfold hexDigit? at h
  split at h
  next hc =>
    have hle : c.toNat ≤ '9'.toNat := hc.2
    have hlast : '9'.toNat = 57 := rfl
    have hfirst : '0'.toNat = 48 := rfl
    cases h
    omega
  next =>
    split at h
    next hc =>
      have hle : c.toNat ≤ 'f'.toNat := hc.2
      have hlast : 'f'.toNat = 102 := rfl
      have hfirst : 'a'.toNat = 97 := rfl
      cases h
      omega
    next =>
      split at h
      next hc =>
        have hle : c.toNat ≤ 'F'.toNat := hc.2
        have hlast : 'F'.toNat = 70 := rfl
        have hfirst : 'A'.toNat = 65 := rfl
        cases h
        omega
      next => cases h

/-- A number of so many digits is below the power of the base. -/
theorem continueNumber_lt {base : Nat} {digitOf : Char → Option Nat}
    (hdigit : ∀ {c : Char} {d : Nat}, digitOf c = some d → d < base) {n m : Nat} {cs : List Char}
    (h : continueNumber base digitOf n cs = some m) : m < (n + 1) * Nat.pow base cs.length := by
  induction cs generalizing n with
  | nil =>
    cases h
    simp
  | cons c cs ih =>
    unfold continueNumber at h
    split at h
    next d hd =>
      have hlt := hdigit hd
      have hstep : n * base + d + 1 ≤ (n + 1) * base := by
        rw [Nat.add_mul]
        omega
      refine Nat.lt_of_lt_of_le (ih h) ?_
      simp only [Nat.pow_eq, List.length_cons, Nat.pow_succ]
      rw [Nat.mul_comm (base ^ cs.length), ← Nat.mul_assoc]
      exact Nat.mul_le_mul_right _ hstep
    next => cases h

theorem toDigits_eq_cons (n : Nat) :
    ∃ d rest, d < 16 ∧ Nat.toDigits 16 n = d.digitChar :: rest := by
  induction n using Nat.strongRecOn with
  | _ n ih =>
    rw [Nat.toDigits_eq_if (by decide)]
    split
    next hn => exact ⟨n, [], hn, rfl⟩
    next hn =>
      obtain ⟨d, rest, hd, he⟩ := ih (n / 16) (by omega)
      exact ⟨d, rest ++ [(n % 16).digitChar], hd, by rw [he, List.cons_append]⟩

theorem decimal?_lt {cs : List Char} {n : Nat} (h : decimal? cs = some n) :
    n < Nat.pow 10 cs.length := by
  unfold decimal? at h
  split at h
  next => cases h
  next =>
    have hlt := continueNumber_lt digit?_lt h
    rwa [Nat.zero_add, Nat.one_mul] at hlt

/-! ### Padded numbers -/

theorem digit_of_mem_paddedDecimal {width n : Nat} {c : Char}
    (hc : c ∈ (paddedDecimal width n).toList) : ∃ d, d < 10 ∧ c = d.digitChar := by
  rw [paddedDecimal, String.toList_ofList] at hc
  rcases List.mem_append.1 hc with hc | hc
  · exact ⟨0, by decide, (List.mem_replicate.1 hc).2⟩
  · exact digit_of_mem_toDigits (by decide) hc

theorem length_paddedDecimal {width n : Nat} (hw : 0 < width) (hn : n < Nat.pow 10 width) :
    (paddedDecimal width n).toList.length = width := by
  have hle : (Nat.toDigits 10 n).length ≤ width :=
    (Nat.length_toDigits_le_iff (by decide) hw).2 hn
  simp only [paddedDecimal, String.toList_ofList, List.length_append, List.length_replicate]
  omega

/-- A padded number is read back, however wide it is written. -/
theorem decimal?_paddedDecimal (width n : Nat) :
    decimal? (paddedDecimal width n).toList = some n := by
  have hread : continueNumber 10 digit? 0 (paddedDecimal width n).toList = some n := by
    rw [paddedDecimal, String.toList_ofList, continueNumber_append,
      continueNumber_zeros (by decide), Option.bind_some,
      continueNumber_toDigits (by decide) digit?_digitChar]
    simp
  unfold decimal?
  split
  next hnil =>
    rw [paddedDecimal, String.toList_ofList, List.append_eq_nil_iff] at hnil
    exact (Nat.toDigits_ne_nil hnil.2).elim
  next => exact hread

end BoardActivity.Text
